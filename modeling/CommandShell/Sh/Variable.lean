import CommandShell.Sh.Descriptor
import CommandShell.Sh.Number

/-! # Variables -/

namespace CommandShell.Sh

/-- A text between single quotes, those that it holds itself between double quotes. -/
def quoteSingle (text : String) : String :=
  let rec go : Nat → List Char → List Char
    | 0, _ => []
    | fuel + 1, cs =>
      let plain := cs.takeWhile (· ≠ '\'')
      let rest := cs.drop plain.length
      let quotes := rest.takeWhile (· = '\'')
      let rest := rest.drop quotes.length
      let shown := '\'' :: plain ++ ['\'']
      if quotes.isEmpty then shown
      else shown ++ '"' :: quotes ++ ['"'] ++ if rest.isEmpty then [] else go fuel rest
  String.ofList (go (text.length + 1) text.toList)

/-- The variables that stay what they are, exported or not, when they are unset. -/
def lastingVariables : List String :=
  ["IFS", "MAIL", "MAILPATH", "PATH", "PS1", "PS2", "PS4", "OPTIND"]

def defaultSeparators : String := " \t\n"

namespace Shell

def find? (sh : Shell) (name : String) : Option Variable := sh.values.lookup name

def value? (sh : Shell) (name : String) : Option String :=
  (sh.find? name).bind (·.value?)

def isOn (sh : Shell) (s : Setting) : Bool := sh.settings.contains s

def setVariable (sh : Shell) (name : String) (v : Variable) : Shell :=
  { sh with values := (name, v) :: sh.values.filter (·.1 ≠ name) }

def dropVariable (sh : Shell) (name : String) : Shell :=
  { sh with values := sh.values.filter (·.1 ≠ name) }

def environment (sh : Shell) : List (String × String) :=
  sh.values.reverse.filterMap fun (name, v) =>
    if v.exported then v.value?.map (name, ·) else none

def separators (sh : Shell) : String := (sh.value? "IFS").getD defaultSeparators

end Shell

namespace Eval

def number (text : String) : Eval Nat :=
  match smallNumber? text with
  | some n => return n
  | none => fail s!"Illegal number: {text}"

def checkWritable (name : String) : Eval Unit := do
  if ((← shell).find? name).any (·.readOnly) then fail s!"{name}: is read only"

def noticeValue (name value : String) : Eval Unit := do
  if name = "PATH" then setShell fun sh => { sh with found := [] }
  if name = "OPTIND" then
    let n ← number value
    setShell fun sh => { sh with optionPlace := { index := if n = 0 then 1 else n } }

def assignWith (exported readOnly : Bool) (name value : String) : Eval Unit := do
  checkWritable name
  noticeValue name value
  setShell fun sh =>
    let v := (sh.find? name).getD {}
    sh.setVariable name
      { value? := some value
        exported := v.exported || exported || sh.isOn .exportAll
        readOnly := readOnly }

def assign (name value : String) : Eval Unit := assignWith false false name value

def checkName (name : String) : Eval Unit := do
  if !isName name then fail s!"{name}: bad variable name"

def assignChecked (name value : String) : Eval Unit := do
  checkName name
  assign name value

def unset (name : String) : Eval Unit := do
  checkName name
  checkWritable name
  if lastingVariables.contains name then
    noticeValue name ""
    setShell fun sh => match sh.find? name with
      | some v => sh.setVariable name { v with value? := none }
      | none => sh
  else setShell (·.dropVariable name)

/-- Keeps a variable for the function that runs, and gives it the value that is meant for that. -/
def makeLocal (exported : Bool) (text : String) : Eval Unit := do
  let keep (s : Saved) : Eval Unit := setShell fun sh =>
    { sh with locals := match sh.locals with
        | frame :: rest => (s :: frame) :: rest
        | [] => [] }
  if text = "-" then keep (.settings (← shell).settings)
  else
    let (name, value?) := match splitAssignment? text with
      | some (name, value) => (name, some value)
      | none => (text, none)
    let before := (← shell).find? name
    match value? with
    | some value => assignWith exported false name value
    | none =>
      if before.isNone then
        checkName name
        setShell (·.setVariable name { exported })
    keep (.variable name before)

def popLocals : Eval Unit := do
  match (← shell).locals with
  | [] => return
  | frame :: rest =>
    setShell fun sh => { sh with locals := rest }
    for s in frame do
      match s with
      | .settings before => setShell fun sh => { sh with settings := before }
      | .variable name before =>
        match before with
        | some v =>
          setShell (·.setVariable name v)
          noticeValue name (v.value?.getD "")
        | none => setShell (·.dropVariable name)

def popLocalsTo (count : Nat) : Eval Unit := do
  for _ in List.range ((← shell).locals.length - count) do popLocals

def showVariables (lead : String) (p : Variable → Bool) : Eval Unit := do
  let shown := (← shell).values.filter (p ·.2)
  for (name, v) in shown.mergeSort (fun a b => precedes a.1.toList b.1.toList) do
    let value := match v.value? with
      | some value => "=" ++ quoteSingle value
      | none => ""
    print s!"{lead}{name}{value}\n"

end Eval

end CommandShell.Sh
