import CommandShell.Sh.Script

/-! # Processes

How a process starts others, waits for them and ends, and how signals reach it. -/

namespace CommandShell.Sh

namespace Eval

/-! ## Signals -/

def traps (sh : Shell) (s : Signal) : Bool := (sh.traps.lookup s).any (!·.isEmpty)

def ignores (sh : Shell) (s : Signal) : Bool :=
  sh.ignored.contains s || (sh.traps.lookup s).any (·.isEmpty)

def receive (s : Signal) : Eval Unit := do
  let sh ← shell
  if s = 0 then return
  else if s = Signal.kill then throw (.killed s)
  else if ignores sh s then return
  else if traps sh s then
    setShell fun sh =>
      { sh with pending := s :: sh.pending.filter (· ≠ s) }
  else if Signal.isHarmless s then return
  else throw (.killed s)

def receiveSent : Eval Unit := do
  let process := (← shell).process
  let mine := (← world).sent.reverse.filter (·.1 = process)
  setWorld fun w => { w with sent := w.sent.filter (·.1 ≠ process) }
  for (_, s) in mine do receive s

/-- Does what is to be done for the signals that have arrived. The last status is kept, unless the
answer to a signal returns with another. -/
def answerSignals (run : Runner) : Eval Unit := do
  let sh ← shell
  if sh.pending.isEmpty || sh.skip?.isSome then return
  let before := sh.ending?
  let status := before.getD sh.status
  setShell fun sh => { sh with ending? := some status, pending := [] }
  for s in sh.pending.mergeSort (fun a b => Nat.ble a b) do
    let sh ← shell
    if sh.skip?.isSome then setShell fun sh => { sh with pending := s :: sh.pending }
    else match sh.traps.lookup s with
      | none => pure ()
      | some action =>
        let _ ← runText run {} action
        if (← shell).skip? ≠ some .return then setStatus status
  setShell fun sh => { sh with ending? := before }

/-! ## The end of a process -/

def finish (run : Runner) (how : Except Stop Unit) : Eval Int := do
  match how with
  | .error (.killed s) => return -(s : Int)
  | .error (.replaced status) => return status
  | .error .exhausted => throw .exhausted
  | _ =>
    setShell fun sh =>
      { sh with
        status := if how matches .error .exit then sh.ending?.getD sh.status else sh.status
        ending? := none, skip? := none, loops := 0 }
    let sh ← shell
    match sh.traps.lookup 0 with
    | none => return ((← shell).status % 256 : Nat)
    | some action =>
      let status := sh.status
      setShell fun sh =>
        { sh with traps := sh.traps.filter (·.1 ≠ 0), ending? := some status }
      let result : Except Stop Nat ← observing (runText run {} action)
      let _ ← flush
      match result with
      | .error (.killed s) => return -(s : Int)
      | .error (.replaced status) => return status
      | .error .exhausted => throw .exhausted
      | .error .error | .error .ended => return ((← shell).status % 256 : Nat)
      | .ok _ | .error .exit => return (((← shell).ending?.getD status) % 256 : Nat)

/-! ## Starting processes -/

/-- What a new process has for itself: what the one has that starts it, without the signals that it
does something for. -/
def child (sh : Shell) (process : Nat) : Shell :=
  { sh with
    process
    parent := sh.process
    traps := sh.traps.filter (·.2.isEmpty)
    pending := []
    ending? := none
    jobs := []
    buffer := "" }

/-- The number of a new process. The first of the jobs that nobody asks for any more goes. -/
def newProcess : Eval Nat := do
  let w ← world
  let process := w.nextProcess
  setWorld fun w => { w with nextProcess := process + 1 }
  setShell fun sh =>
    { sh with jobs := sh.jobs.eraseP fun j => j.waited && (w.ended.lookup j.process).isSome }
  return process

def runChild (run : Runner) (sh : Shell) (body : Eval Nat) : Eval Int := do
  let mine ← shell
  setShell fun _ => sh
  let result ← observing (do let _ ← body; pure ())
  let ended ← finish run result
  setShell fun _ => mine
  return ended

def runDeferred (run : Runner) : Eval Unit :=
  iterate .exhausted (fun _ => do
    match (← world).deferred with
    | [] => return .inr ()
    | d :: rest =>
      setWorld fun w => { w with deferred := rest }
      let ended ← match (← world).sent.find? fun (p, s) => p = d.process && !ignores d.shell s with
        | some (_, s) =>
          setWorld fun w => { w with sent := w.sent.filter (·.1 ≠ d.process) }
          pure (-(s : Int))
        | none => runChild run d.shell (run { last := true } d.body)
      setWorld fun w => { w with ended := (d.process, ended) :: w.ended }
      return .inl ()) turns ()

def tellDeath (ended : Int) : Eval Unit := do
  let s := (-ended).toNat
  if ended < 0 && !Signal.isSilent s then tell (Signal.description s ++ "\n")

def statusOf (ended : Int) : Nat := if ended < 0 then 128 + (-ended).toNat else ended.toNat

def fork (run : Runner) (body : Eval Nat) : Eval Int := do
  runDeferred run
  let process ← newProcess
  let ended ← runChild run (child (← shell) process) body
  tellDeath ended
  receiveSent
  return ended

def noticeEnd : Eval Unit := do
  if traps (← shell) Signal.child then receive Signal.child

def runForked (run : Runner) (body : Eval Nat) : Eval Nat := do
  let ended ← fork run body
  noticeEnd
  return statusOf ended

def defer (body : Node) : Eval Unit := do
  let process ← newProcess
  let nothing ← addChannel .nothing
  let sh := child (← shell) process
  let descriptors := (0, nothing) :: sh.descriptors.filter (·.1 ≠ 0)
  let sh := { sh with descriptors, ignored := Signal.interrupt :: Signal.quit :: sh.ignored }
  setWorld fun w => { w with deferred := w.deferred ++ [⟨process, sh, body⟩] }
  setShell fun sh =>
    let used := sh.jobs.map (·.number)
    let number := ((List.range (used.length + 1)).map (· + 1)).find? (!used.contains ·)
    { sh with
      background? := some process
      jobs := sh.jobs ++ [{ number := number.getD 0, process }] }

def capture (run : Runner) (body? : Option Node) : Eval String := do
  match body? with
  | none => return ""
  | some body =>
    let (input, output) ← addPipe ""
    let status ← runForked run do
      point 1 output
      run { last := true } body
    setShell fun sh => { sh with substituted := status }
    match (← world).channels[input]? with
    | some (.pipe p _) =>
      let text := String.ofList ((← world).pipes.getD p {}).content.toList
      setWorld fun w => { w with pipes := w.pipes.setIfInBounds p {} }
      return text
    | _ => return ""

end Eval

end CommandShell.Sh
