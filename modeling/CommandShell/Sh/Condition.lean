import CommandShell.Sh.Number
import CommandShell.Sh.Pattern

/-! # Conditions

What `test` finds out about texts, numbers and files. -/

namespace CommandShell.Sh

namespace Condition

inductive Role
  | unary
  | binary
  | not
  | and
  | or
  | openParen
  | closeParen
  deriving DecidableEq, Repr

def role? (word : String) : Option Role :=
  if ["-r", "-w", "-x", "-e", "-f", "-d", "-c", "-b", "-p", "-u", "-g", "-k", "-s", "-t", "-z",
      "-n", "-h", "-O", "-G", "-L", "-S"].contains word then some .unary
  else if ["=", "!=", "<", ">", "-eq", "-ne", "-ge", "-gt", "-le", "-lt", "-nt", "-ot",
      "-ef"].contains word then some .binary
  else match word with
    | "!" => some .not
    | "-a" => some .and
    | "-o" => some .or
    | "(" => some .openParen
    | ")" => some .closeParen
    | _ => none

inductive Item
  | missing
  | operand
  | role (r : Role)
  deriving DecidableEq, Repr

structure Place where
  words : Array String
  disk : Disk
  cwd : Ino
  place : Nat := 0

abbrev Test (α : Type) := ExceptT String (StateM Place) α

/-- A unary operator is an operand where nothing follows it, or where an operator between two
operands does. -/
def isOperand (words : Array String) (i : Nat) : Bool :=
  match words[i + 1]? with
  | none => true
  | some next => (words[i + 2]?).isSome && role? next = some .binary

def item (words : Array String) (i : Nat) : Item :=
  match words[i]? with
  | none => .missing
  | some word =>
    match role? word with
    | none => .operand
    | some r =>
      if (r = .unary && isOperand words i) || (r = .openParen && (words[i + 1]?).isNone) then .operand
      else .role r

def move (count : Nat) : Test Item := do
  modify fun p => { p with place := p.place + count }
  let p ← get
  return item p.words p.place

def look : Test Item := do
  let p ← get
  return item p.words (p.place + 1)

def word? : Test (Option String) := do
  let p ← get
  return p.words[p.place]?

def number (text : String) : Test Int :=
  match wholeNumber? (some 10) text with
  | some n => return n
  | none => throw s!"Illegal number: {text}"

/-! ## Files -/

def fileIs (p : Place) (op path : String) : Bool :=
  let d := p.disk
  let path := pathText path
  if op = "-h" || op = "-L" then
    match entryAt d p.cwd path with
    | some i => (d.node? i).any (· matches .link _)
    | none => false
  else
    match d.locate p.cwd path with
    | .error _ => false
    | .ok i =>
      match d.node? i with
      | none | some (.link _) => false
      | some (.directory ..) => ["-e", "-d", "-r", "-w", "-x", "-s", "-O", "-G"].contains op
      | some (.device _) => ["-e", "-c", "-r", "-w", "-O", "-G"].contains op
      | some (.regular content mode) =>
        match op with
        | "-e" | "-f" | "-O" | "-G" => true
        | "-r" => Right.read.isIn mode
        | "-w" => Right.write.isIn mode
        | "-x" => Right.run.isIn mode
        | "-s" => !content.isEmpty
        | "-u" => mode &&& 0o4000 ≠ 0
        | "-g" => mode &&& 0o2000 ≠ 0
        | "-k" => mode &&& 0o1000 ≠ 0
        | _ => false

def sameFile (p : Place) (a b : String) : Bool :=
  match p.disk.locate p.cwd (pathText a), p.disk.locate p.cwd (pathText b) with
  | .ok i, .ok j => i = j
  | _, _ => false

/-! ## Conditions -/

def binary : Test Bool := do
  let a := (← word?).getD ""
  let _ ← move 1
  let op := (← word?).getD ""
  let _ ← move 1
  match ← word? with
  | none => throw s!"{op}: argument expected"
  | some b =>
    let numbers (compare : Int → Int → Bool) : Test Bool := do
      let x ← number a
      return compare x (← number b)
    match op with
    | "=" => return a = b
    | "!=" => return a ≠ b
    | "<" => return a ≠ b && precedes a.toList b.toList
    | ">" => return a ≠ b && precedes b.toList a.toList
    | "-eq" => numbers (· = ·)
    | "-ne" => numbers (· ≠ ·)
    | "-ge" => numbers (· ≥ ·)
    | "-gt" => numbers (· > ·)
    | "-le" => numbers (· ≤ ·)
    | "-lt" => numbers (· < ·)
    | "-ef" => return sameFile (← get) a b
    | _ => return false

def unary : Test Bool := do
  let op := (← word?).getD ""
  let _ ← move 1
  match ← word? with
  | none => throw s!"{op}: argument expected"
  | some a =>
    match op with
    | "-z" => return a.isEmpty
    | "-n" => return !a.isEmpty
    | "-t" =>
      let _ ← number a
      return false
    | _ => return fileIs (← get) op a

def primary (whole : Item → Test Bool) (i : Item) : Test Bool := do
  match i with
  | .missing => return false
  | .role .openParen =>
    let i ← move 1
    if i = .role .closeParen then return false
    let holds ← whole i
    if (← move 1) ≠ .role .closeParen then throw "closing paren expected"
    return holds
  | .role .unary => unary
  | _ =>
    if (← look) = .role .binary then binary
    else return !((← word?).getD "").isEmpty

def negation (whole : Item → Test Bool) : Nat → Item → Test Bool
  | 0, _ => return false
  | fuel + 1, i => do
    if i ≠ .role .not then primary whole i
    else
      let next ← look
      if next ≠ .missing then
        let _ ← move 1
      return !(← negation whole fuel next)

def conjunction (whole : Item → Test Bool) : Nat → Bool → Item → Test Bool
  | 0, holds, _ => return holds
  | fuel + 1, holds, i => do
    let size := (← get).words.size
    let holds := (← negation whole (size + 1) i) && holds
    if (← look) = .role .and then conjunction whole fuel holds (← move 2)
    else return holds

def disjunction (whole : Item → Test Bool) : Nat → Bool → Item → Test Bool
  | 0, holds, _ => return holds
  | fuel + 1, holds, i => do
    let size := (← get).words.size
    let holds := (← conjunction whole (size + 1) true i) || holds
    if (← look) = .role .or then disjunction whole fuel holds (← move 2)
    else return holds

def whole : Nat → Item → Test Bool
  | 0, _ => return false
  | fuel + 1, i => disjunction (whole fuel) (fuel + 1) false i

def parsed (first? : Option Item) : Test Bool := do
  let p ← get
  let holds ← whole (p.words.size + 2) (first?.getD (item p.words 0))
  let p ← get
  match p.words[p.place]?, p.words[p.place + 1]? with
  | some word, some _ =>
    throw ((if word.isEmpty then "" else word ++ ": ") ++ "unexpected operator")
  | _, _ => return holds

/-- Whether the condition that words are holds. With three or four of them the outer ones count
first. -/
def holds (d : Disk) (cwd : Ino) : Nat → List String → Except String Bool
  | 0, _ => .ok false
  | fuel + 1, words =>
    let plain (first? : Option Item) : Except String Bool :=
      ((parsed first?).run ⟨words.toArray, d, cwd, 0⟩).1
    let outer : Except String Bool :=
      if words.head? = some "(" && words.getLast? = some ")" then
        holds d cwd fuel (words.drop 1).dropLast
      else if words.head? = some "!" then (holds d cwd fuel (words.drop 1)).map (!·)
      else plain none
    match words with
    | [] => .ok false
    | [_, op, _] => if role? op = some .binary then plain (some .operand) else outer
    | [_, _, _, _] => outer
    | _ => plain none

end Condition

end CommandShell.Sh
