import CommandShell.Sh.Descriptor
import CommandShell.Sh.Grammar

/-! # Running text

A text is run command by command: each is run before the next one is read. -/

namespace CommandShell.Sh

structure Purpose where
  /-- Another command looks at how it ends. -/
  tested : Bool := false
  /-- The process ends with it. -/
  last : Bool := false
  deriving DecidableEq, Repr

abbrev Runner := Purpose → Node → Eval Nat

inductive Origin
  | text
  /-- The open file that a descriptor leads to. -/
  | descriptor (descriptor : Nat)
  deriving DecidableEq, Repr

structure Reading where
  source : Source
  origin : Origin := .text

namespace Reading

def ofText (text : String) : Reading := { source := { chars := text.toList } }

def ofDescriptor (descriptor : Nat) : Reading :=
  { source := { chars := [] }, origin := .descriptor descriptor }

end Reading

namespace Eval

def readCommand (r : Reading) : Eval (Option Node × Bool × Reading) := do
  let sh ← shell
  let later ← match r.origin with
    | .text => pure []
    | .descriptor d =>
      match ← rest d with
      | .ok cs => pure cs
      | .error _ => pure []
  let source : Source :=
    { r.source with
      later
      taken := 0
      aliases := sh.aliases
      documents := sh.documents
      shows := r.origin ≠ .text && sh.settings.contains .showInput
      shown := "" }
  let (read, source) := Reader.readCommandLine source
  match r.origin with
  | .text => pure ()
  | .descriptor d => advance d source.taken
  tell source.shown
  setShell fun sh => { sh with documents := source.documents, readingLine := source.line }
  match read with
  | .ok (c, atEnd) => return (c, atEnd, { r with source := { source with later := [] } })
  | .error message => refuseText message

/-- Runs a text to its end, or until something passes over the rest. The process may end with its
last command. -/
def runReading (run : Runner) (purpose : Purpose) (r : Reading) : Eval Nat := do
  let before := (← shell).readingLine
  let status ← iterate .exhausted (fun (status, r) => do
    let (c?, atEnd, r) ← readCommand r
    match c?, atEnd with
    | none, true => return .inr status
    | none, false => return .inl (status, r)
    | some c, _ =>
      let status ← run { purpose with last := purpose.last && atEnd } c
      if (← shell).skip?.isSome then return .inr status
      else return .inl (status, r)) turns (0, r)
  setShell fun sh => { sh with readingLine := before }
  return status

def runText (run : Runner) (purpose : Purpose) (text : String) : Eval Nat :=
  runReading run purpose (.ofText text)

/-- Runs a file in the place where it is met. What returns from it does not return from more. -/
def runFile (run : Runner) (descriptor : Nat) : Eval Nat := do
  let status ← runReading run {} (.ofDescriptor descriptor)
  setShell fun sh =>
    { sh with
      skip? := match sh.skip? with
        | some .return | some .returnLast => none
        | skip? => skip? }
  return status

end Eval

end CommandShell.Sh
