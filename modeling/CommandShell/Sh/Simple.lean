import CommandShell.Sh.Redirect
import CommandShell.Sh.Utility.Flow

/-! # Simple commands

A simple command assigns variables, runs a function, a utility or a program, and does so with its
descriptors pointed elsewhere. -/

namespace CommandShell.Sh

structure Words where
  /-- The fields in front, which were passed over. -/
  passed : List String := []
  fields : List String := []
  left : List Word := []

namespace Words

def all (w : Words) : List String := w.passed ++ w.fields

def dropFirst (w : Words) : Words :=
  { w with passed := w.passed ++ w.fields.take 1, fields := w.fields.drop 1 }

end Words

/-- What a simple command is going to do, before it is clear what its name leads to. -/
structure Plan where
  words : Words
  /-- It is a utility. -/
  isUtility : Bool := true
  /-- The first utility in it is a special one, if there is any. -/
  isSpecial? : Option Bool := none
  /-- What is assigned lasts only as long as it runs. -/
  isTemporary : Bool := false
  declares : Bool := false
  /-- Functions are not considered. -/
  skipsFunctions : Bool := false
  otherPath? : Option String := none

namespace Plan

def isSpecial (p : Plan) : Bool := p.isSpecial?.getD false

def name (p : Plan) : String := p.words.fields.headD ""

def keepsDescriptors (p : Plan) : Bool := p.isUtility && p.name = "exec"

end Plan

namespace Eval

section

variable (run : Runner)

def moreFields : List Word → Eval (List String × List Word)
  | [] => return ([], [])
  | w :: ws => do
    match ← expandFields (capture run) [w] with
    | [] => moreFields ws
    | fields => return (fields, ws)

def ensureSecond (w : Words) : Eval Words := do
  match w.fields with
  | _ :: _ :: _ => return w
  | _ =>
    let (fields, left) ← moreFields run w.left
    return { w with fields := w.fields ++ fields, left }

/-- Passes over the name of the utility that runs others, and over its options. There is nothing to
pass over when it is to do something of its own. -/
def passOptions (path? : Option String) : Nat → Words → Eval (Words × Option (Option String))
  | 0, w => return (w, none)
  | fuel + 1, w => do
    let w ← ensureSecond run w
    match w.fields with
    | _ :: next :: _ =>
      match next.toList with
      | ['-', '-'] =>
        let w ← ensureSecond run w.dropFirst
        if w.fields.length < 2 then return (w, none) else return (w.dropFirst, some path?)
      | '-' :: c :: cs =>
        if (c :: cs).all (· = 'p') then passOptions (some defaultPath) fuel w.dropFirst
        else return (w, none)
      | _ => return (w.dropFirst, some path?)
    | _ => return (w, none)

def plan : Nat → Plan → Eval Plan
  | 0, p => return p
  | fuel + 1, p => do
    let name := p.name
    let isFunction := !p.skipsFunctions && ((← shell).functions.lookup name).isSome
    if isFunction || name.toList.contains '/' || !utilityNames.contains name then
      return { p with isUtility := false, isTemporary := true, declares := false }
    let special := specialUtilities.contains name
    let p : Plan :=
      { p with
        declares := declaringUtilities.contains name
        isSpecial? := some (p.isSpecial?.getD special)
        isTemporary := p.isSpecial?.isSome || !special }
    if name ≠ "command" then return p
    let start := p.words.passed.length
    let (words, path??) ← passOptions run p.otherPath? (p.words.left.length + 1000) p.words
    match path?? with
    | none =>
      let all := words.all
      let words := { words with passed := all.take start, fields := all.drop start }
      return { p with words }
    | some otherPath? => plan fuel { p with words, otherPath?, skipsFunctions := true }

def planned (words : List Word) : Eval Plan := do
  let (fields, left) ← moreFields run words
  if fields.isEmpty then return { words := {} }
  let p ← plan run (words.length + fields.length + 1) { words := { fields, left } }
  let rest ← p.words.left.mapM fun w => do
    if p.declares && w.isAssignment then
      return [← expandText (capture run) { assigned := true } w]
    else expandFields (capture run) [w]
  return { p with words := { p.words with fields := p.words.fields ++ rest.flatten, left := [] } }

/-! ## What a command runs -/

def callLimit : Nat := 1000

def callFunction (purpose : Purpose) (body : Node) (arguments : List String) : Eval Nat := do
  let before ← shell
  if callLimit ≤ before.calls then fail s!"Maximum function recursion depth ({callLimit}) reached"
  setShell fun sh =>
    { sh with arguments, optionPlace := {}, loops := 0, calls := before.calls + 1 }
  let result : Except Stop Nat ← observing (run { tested := purpose.tested } body)
  setShell fun sh =>
    { sh with
      arguments := before.arguments
      optionPlace := before.optionPlace
      loops := before.loops
      calls := before.calls
      skip? := match sh.skip? with
        | some .return | some .returnLast => none
        | skip? => skip? }
  let _ ← MonadExcept.ofExcept result
  return (← shell).status

def runUtility (purpose : Purpose) (argv : List String) : Eval Nat := do
  let name := argv.headD ""
  let before := (← shell).command?
  let back : Eval Unit := setShell fun sh => { sh with command? := before, buffer := "" }
  setShell fun sh => { sh with command? := some name }
  let result : Except Stop Nat ← observing (Utility.perform run purpose name (argv.drop 1))
  match result with
  | .ok status =>
    let status ← match ← flush with
      | .ok () => pure status
      | .error _ => do
        warn s!"{name}: I/O error"
        pure (status ||| 1)
    setStatus status
    back
    return status
  | .error how =>
    back
    throw how

def hasTraps : Eval Bool := do return (← shell).traps.any fun (_, action) => !action.isEmpty

/-- Runs a program. The process becomes it, where it has nothing else to do. -/
def runProgram (purpose : Purpose) (argv paths : List String) : Eval Nat := do
  if purpose.last && !(← hasTraps) then become run argv paths
  else runForked run (become run argv paths)

/-! ## Simple commands -/

def showTrace (channel? : Option Nat) (values fields : List String) : Eval Unit := do
  if (← shell).isOn .trace then
    let lead ← tracePrefix
    let text := lead ++ " ".intercalate (values ++ fields) ++ "\n"
    match channel? with
    | none => tell text
    | some i =>
      if let some c := (← world).channels[i]? then
        let _ ← writeTo i c text
where
  /-- What a trace starts with; no trace is shown while that is found out. An error in it leaves it
  as it is. -/
  tracePrefix : Eval String := do
    let text := ((← shell).value? "PS4").getD ""
    match Reader.readQuotedText { chars := text.toList, documents := (← shell).documents } with
    | (.ok w, source) =>
      let settings := (← shell).settings
      setShell fun sh =>
        { sh with settings := settings.filter (· ≠ .trace), documents := source.documents }
      let result : Except Stop String ←
        observing (expandText (capture run) { quoted := true } w)
      setShell fun sh => { sh with settings }
      match result with
      | .ok text => return text
      | .error .error => return text
      | .error how => throw how
    | (.error _, _) => return text

def assignAll (p : Plan) (assignments : List Word) : Eval (List String) :=
  assignments.mapM fun w => do
    let text ← expandText (capture run) { assigned := true } w
    if p.isTemporary then makeLocal true text
    else
      let (name, value) := (splitAssignment? text).getD (text, "")
      let exported := p.keepsDescriptors && 1 < p.words.fields.length
      assignWith exported false name value
    return text

def runPlanned (purpose : Purpose) (p : Plan) : Eval Nat := do
  let argv := p.words.fields
  if argv.isEmpty then
    let status := (← shell).substituted
    setStatus status
    return status
  if p.isUtility then
    let result : Except Stop Nat ← observing (runUtility run purpose argv)
    match result with
    | .ok status => return status
    | .error .error => if p.isSpecial then throw .error else return (← shell).status
    | .error how => throw how
  match ← lookUp (!p.skipsFunctions) p.otherPath? p.name with
  | .function body => callFunction run purpose body (argv.drop 1)
  | .program paths => runProgram run purpose argv paths
  | .utility => runUtility run purpose argv
  | .nothing e =>
    let reason := commandError e
    warn s!"{p.name}: {reason}"
    setStatus 127
    return 127

def runSimple (purpose : Purpose) (line : Nat) (assignments words : List Word)
    (redirections : List Redirection) : Eval Nat := do
  setShell fun sh => { sh with line, substituted := 0 }
  let p ← planned run words
  let frames := (← shell).locals.length
  if p.isTemporary then setShell fun sh => { sh with locals := [] :: sh.locals }
  let targets ← redirections.mapM (target (capture run))
  let before := (← shell).descriptors
  let traced? := if targets.any (·.1 = 2) then before.lookup 2 else none
  let body : Eval Nat := do
    let status ← redirect (capture run) targets
    if status ≠ 0 then
      setStatus status
      if p.isSpecial then throw .error
      return status
    let values ← assignAll run p assignments
    showTrace run traced? values p.words.all
    runPlanned run purpose p
  let status ← if p.keepsDescriptors then body else pointingBack targets body
  popLocalsTo frames
  return status

end

end Eval

end CommandShell.Sh
