import CommandShell.Sh.Simple

/-! # Running commands -/

namespace CommandShell.Sh

namespace Eval

section

variable (run : Runner)

/-! ## Loops -/

/-- What is passed over at the end of a turn of a loop. Each loop takes one off what is to be left,
and leaving more than one loop is no reason to go on with this one. -/
def leaveTurn : Eval (Option Skip) := do
  let sh ← shell
  match sh.skip? with
  | some .break | some .continue =>
    setShell fun sh => { sh with skipCount := sh.skipCount - 1 }
    if sh.skipCount ≤ 1 then
      setShell fun sh => { sh with skip? := none }
      return sh.skip?
    else return some .break
  | skip? => return skip?

def inLoop {α : Type} (body : Eval α) : Eval α := do
  setShell fun sh => { sh with loops := sh.loops + 1 }
  let a ← body
  setShell fun sh => { sh with loops := sh.loops - 1 }
  return a

def runLoop (purpose : Purpose) (whileTrue : Bool) (condition body : Node) : Eval Nat := inLoop do
  iterate .exhausted (fun status => do
    let found ← run { tested := true } condition
    match ← leaveTurn with
    | some .continue => return .inl status
    | some .return => return .inr found
    | some _ => return .inr status
    | none =>
      if (found = 0) ≠ whileTrue then return .inr status
      else
        let status ← run { tested := purpose.tested } body
        match ← leaveTurn with
        | none | some .continue => return .inl status
        | some _ => return .inr status) turns 0

def runEach (purpose : Purpose) (name : String) (words : List Word) (body : Node) : Eval Nat := do
  let values ← expandFields (capture run) words
  inLoop do
    iterate .exhausted (fun (status, values) => do
      match values with
      | [] => return .inr status
      | value :: values =>
        assignChecked name value
        let status ← run { tested := purpose.tested } body
        match ← leaveTurn with
        | none | some .continue => return .inl (status, values)
        | some _ => return .inr status) (values.length + 1) (0, values)

/-! ## Choices -/

def findChoice (text : String) : List Choice → Eval (Option Node)
  | [] => return none
  | .mk patterns body :: rest => do
    let found? ← patterns.findM? fun w => do
      let pattern := Stretch.pattern (← expand (capture run) {} w)
      return Pattern.accepts pattern text.toList
    if found?.isSome then return body else findChoice text rest

def runSelect (purpose : Purpose) (word : Word) (choices : List Choice) : Eval Nat := do
  let text ← expandText (capture run) {} word
  match ← findChoice run text choices with
  | some body => run purpose body
  | none => return 0

/-! ## Processes -/

/-- Runs a command in a process of its own. None is needed where the process has nothing else to
do. -/
def runSubshell (purpose : Purpose) (body : Node) (redirections : List Redirection) :
    Eval Nat := do
  let targets ← redirections.mapM (target (capture run))
  let body : Eval Nat := do
    targets.forM fun (d, t) => pointTo (capture run) d t
    run { purpose with last := true } body
  if purpose.last && !(← hasTraps) then body else runForked run body

/-- Looks for the program of a command before a process is started for it. -/
def lookAhead : Node → Eval Unit
  | .simple _ _ (w :: _) _ => do
    if let some name := Word.bare? w then
      if isName name then
        let _ ← lookUp true none name
  | _ => return

def runPipeline (purpose : Purpose) (stages : List Node) : Eval Nat := do
  let ended : Int ← iterate .exhausted (fun (input?, stages) => do
    match stages with
    | [] => return .inr 0
    | stage :: rest =>
      lookAhead stage
      let (next?, output?) ← if rest.isEmpty then pure (none, none)
        else do
          let (input, output) ← addPipe ""
          pure (some input, some output)
      let ended ← fork run do
        if let some i := input? then point 0 i
        if let some i := output? then point 1 i
        run { purpose with last := true } stage
      if rest.isEmpty then return .inr ended
      else return .inl (next?, rest)) (stages.length + 1) ((none : Option Nat), stages)
  noticeEnd
  return statusOf ended

/-! ## All commands -/

def endOnFailure (purpose : Purpose) (status : Nat) : Eval Unit := do
  if (← shell).isOn .exitOnError && !purpose.tested && status ≠ 0 then throw .ended

def runKind (purpose : Purpose) : Node → Eval Nat
  | .simple line assignments words redirections =>
    runSimple run purpose line assignments words redirections
  | .pipeline stages background => do
    if background then
      defer (.pipeline stages false)
      return 0
    else runPipeline run purpose stages
  | .redirected line body redirections => do
    setShell fun sh => { sh with line }
    let targets ← redirections.mapM (target (capture run))
    pointingBack targets do
      let status ← redirect (capture run) targets
      if status = 0 then run { tested := purpose.tested } body
      else
        setStatus status
        answerSignals run
        endOnFailure purpose status
        return status
  | .subshell line body redirections => do
    setShell fun sh => { sh with line }
    runSubshell run purpose body redirections
  | .background line body redirections => do
    setShell fun sh => { sh with line }
    defer (if redirections.isEmpty then body else .redirected line body redirections)
    return 0
  | .both first second => do
    let status ← run { tested := true } first
    if status ≠ 0 || (← shell).skip?.isSome then return status
    run purpose second
  | .either first second => do
    let status ← run { tested := true } first
    if status = 0 || (← shell).skip?.isSome then return status
    run purpose second
  | .sequence first second => do
    let status ← run { tested := purpose.tested } first
    if (← shell).skip?.isSome then return status
    run purpose second
  | .invert body => do
    let status ← run { tested := true } body
    return if status = 0 then 1 else 0
  | .branch condition yes no => do
    let status ← run { tested := true } condition
    if (← shell).skip?.isSome then return status
    if status = 0 then run purpose yes
    else match no with
      | some no => run purpose no
      | none => return 0
  | .loop whileTrue condition body => runLoop run purpose whileTrue condition body
  | .each line name words body => do
    setShell fun sh => { sh with line }
    runEach run purpose name words body
  | .select line word choices => do
    setShell fun sh => { sh with line }
    runSelect run purpose word choices
  | .define _ name body => do
    setShell fun sh =>
      { sh with functions := (name, body) :: sh.functions.filter (·.1 ≠ name) }
    return 0

def countsFailure : Node → Bool
  | .simple .. | .subshell .. | .background .. | .pipeline .. => true
  | _ => false

def runNode (purpose : Purpose) (c : Node) : Eval Nat := do
  if (← shell).isOn .onlyRead then return (← shell).status
  answerSignals run
  let status ← runKind run purpose c
  setStatus status
  answerSignals run
  if countsFailure c then endOnFailure purpose status
  return (← shell).status

end

/-- Runs commands up to a depth. A process in which they go deeper than that dies. -/
def runTo : Nat → Runner
  | 0, _, _ => throw (.killed Signal.segmentation)
  | depth + 1, purpose, c => runNode (fun p c => runTo depth p c) purpose c

end Eval

end CommandShell.Sh
