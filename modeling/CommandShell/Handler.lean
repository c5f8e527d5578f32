import CommandShell.Line.Redirection
import CommandShell.Sink

/-! # Handlers

A builtin is run by a handler, which writes to the two sinks of its call. -/

namespace CommandShell

structure Scene where
  machine : Machine
  out : Sink
  err : Sink

abbrev Act (α : Type) := ExceptT Escape (StateM Scene) α

namespace Scene

def sink (s : Scene) : Stream → Sink
  | .out => s.out
  | .err => s.err

def onSink {α : Type} (stream : Stream) (step : Sink.Step α) : Act α := fun s =>
  match step (s.sink stream) s.machine with
  | (r, sink, machine) =>
    (r.mapError .fault, match stream with
      | .out => { s with machine, out := sink }
      | .err => { s with machine, err := sink })

end Scene

namespace Act

def write (stream : Stream) (text : String) : Act Unit := do
  let _ ← Scene.onSink stream (Sink.write text)

def flush (stream : Stream) : Act Unit := Scene.onSink stream Sink.flush

def close (stream : Stream) : Act Unit := Scene.onSink stream Sink.close

def fail {α : Type} (f : Fault) : Act α := throw (.fault f)

end Act

/-- What a handler is told: the command that it runs, and the status of the run before. -/
structure Errand where
  name : String
  args : List String
  status : Int := 0

def Errand.argText (e : Errand) : String := Command.argText e.args

def Command.errand (c : Command) : Errand where
  name := c.name
  args := c.args

abbrev Handler := Errand → Act Int

/-- The handler that does what `body` does. One that answers with nothing has gone well. -/
def Handler.of (body : Errand → Act (Option Int)) : Handler := fun e => do
  return (← body e).getD 0

def Handler.ofBody (body : String → Act (Option Int)) : Handler := .of fun e => body e.argText

structure Call extends Errand where
  handler? : Option Handler

def Command.call (c : Command) (handler : Handler) : Call where
  toErrand := c.errand
  handler? := some handler

namespace Call

def describe (c : Call) : String := s!"Process({c.name} {c.argText})"

def report (c : Call) : Escape → Act Int
  | .fault (.usage message) => do
    Act.write .err (message ++ "\n")
    return 1
  | .fault f => do
    Act.write .err s!"Error executing '{c.name}': {f.message}\n"
    return 1
  | escape => throw escape

def settle (c : Call) (handler : Handler) : Act Int := fun s =>
  match handler c.toErrand s with
  | (.ok status, s) => (.ok status, s)
  | (.error escape, s) => c.report escape s

def flushBoth : Act Unit := do
  Act.flush .out
  Act.flush .err

def after (c : Call) (r : Except Escape Int) : Call :=
  match r with
  | .ok status => { c with status }
  | .error _ => c

/-- Runs a call. The status counts also when the sinks cannot be flushed afterwards. -/
def run (c : Call) (s : Scene) : Except Escape Int × Call × Scene :=
  match c.handler? with
  | none =>
    match Act.write .err s!"Error: No executor for command '{c.name}'\n" s with
    | (.ok (), s) => (.ok 127, { c with status := 127 }, s)
    | (.error e, s) => (.error e, c, s)
  | some handler =>
    match c.settle handler s with
    | (r, s) =>
      match flushBoth s with
      | (.ok (), s) => (r, c.after r, s)
      | (.error e, s) => (.error e, c.after r, s)

end Call

end CommandShell
