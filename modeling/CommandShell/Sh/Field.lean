import CommandShell.Sh.Pattern

/-! # Fields

A word that was expanded is a row of stretches. Those that came from parameters and commands are
divided into fields, and what is not quoted may be a pattern. -/

namespace CommandShell.Sh

inductive Cut
  | nowhere
  /-- At the separators of fields. -/
  | separators
  /-- Between the parameters that it is made of, which NUL stands between. -/
  | parameters
  deriving DecidableEq, Repr

structure Stretch where
  text : String
  quoted : Bool
  cut : Cut := .nowhere
  deriving DecidableEq, Repr

namespace Stretch

/-- The edge of a quotation, which is there even if nothing is quoted. -/
def edge : Stretch := ⟨"", true, .nowhere⟩

def join (stretches : Array Stretch) : String :=
  stretches.foldl (fun text s => text ++ s.text) ""

def isMeant (c : Char) : Bool := "\\!*?[]=~:/-".toList.contains c

/-- Adds a stretch to a pattern. The flag says whether the next character can still be hidden, which
a backslash in front of it prevents. -/
def addToPattern (found : Array Char × Bool) (s : Stretch) : Array Char × Bool :=
  if s.quoted && s.text.isEmpty then (found.1, true)
  else s.text.foldl (fun (p, hides) c =>
    if s.quoted then ((if hides && isMeant c then p.push '\\' else p).push c, true)
    else (p.push c, c ≠ '\\')) found

def pattern (stretches : Array Stretch) : List Char :=
  (stretches.foldl addToPattern (#[], true)).1.toList

end Stretch

abbrev Field := Array Stretch

/-! ## Dividing -/

structure Division where
  made : Array Field := #[]
  /-- The field that is made, and the text at its end. -/
  current : Field := #[]
  run : String := ""
  quoted : Bool := false
  /-- A blank separator was just passed. -/
  blank : Bool := false
  /-- The stretch at hand is divided between parameters only, and the one before it was. -/
  parameters : Bool := false
  before : Bool := false
  /-- How many fields may still be made, if there is a limit. The last one holds all the rest. -/
  left? : Option Nat := none
  /-- Where the last field would end without the separators behind it. -/
  cutoff? : Option (Field × String) := none

namespace Division

def isEmpty (d : Division) : Bool := d.run.isEmpty && d.current.isEmpty

def settle (d : Division) : Division :=
  if d.run.isEmpty then d
  else { d with current := d.current.push ⟨d.run, d.quoted, .nowhere⟩, run := "" }

def field (d : Division) : Field := d.settle.current

def add (d : Division) (c : Char) : Division := { d with run := d.run.push c }

def emit (d : Division) : Division :=
  { d with made := d.made.push d.field, current := #[], run := "" }

def step (separators : List Char) (d : Division) (c : Char) : Division :=
  let separates := c = '\x00' || (!d.parameters && separators.contains c)
  let isBlank := separates && (c = '\x00' || c = ' ' || c = '\t' || c = '\n')
  if d.left? = some 0 then
    let cutoff? := if isBlank then d.cutoff? <|> some (d.current, d.run)
      else if separates && d.blank then d.cutoff? else none
    { d.add c with cutoff?, blank := isBlank && d.blank }
  else if d.blank && separates then { d with blank := isBlank }
  else if separates then
    let blank := if d.before || d.parameters then d.blank else isBlank
    if d.isEmpty && blank then { d with blank := false }
    else match d.left? with
      | some 1 => { d with left? := some 0, cutoff? := some (d.current, d.run), blank }.add c
      | left? => { d.emit with left? := left?.map (· - 1), blank }
  else { d.add c with blank := false }

def take (separators : List Char) (d : Division) (s : Stretch) : Division :=
  let d := if d.quoted = s.quoted then d else { d.settle with quoted := s.quoted }
  match s.cut with
  | .nowhere =>
    if s.text.isEmpty && s.quoted then
      let d := d.settle
      { d with current := d.current.push Stretch.edge }
    else { d with run := d.run ++ s.text }
  | cut =>
    let d :=
      { d with before := d.parameters, parameters := cut = .parameters, blank := false }
    s.text.foldl (step separators) d

/-- All fields. One that ends with parameters ends with a field, even if that is empty. -/
def finish (d : Division) : List Field :=
  let d := match d.cutoff? with
    | some (current, run) => if d.parameters then d else { d with current, run }
    | none => d
  (if d.parameters || !d.isEmpty then d.emit else d).made.toList

end Division

def divide (separators : String) (left? : Option Nat) (stretches : Array Stretch) : List Field :=
  (stretches.foldl (Division.take separators.toList) { left? }).finish

end CommandShell.Sh
