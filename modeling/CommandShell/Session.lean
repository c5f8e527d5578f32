import CommandShell.Builtin
import CommandShell.Capture

/-! # Sessions

A session reads a line, runs the command in it, and goes on. -/

namespace CommandShell

structure Session where
  settings : Settings := {}
  handlers : List (String × Handler) := Builtin.handlers

namespace Session

/-- How a builtin was run: the way it ended, the sinks that were opened for it, as they were left,
and the machine. -/
structure Visit where
  result : Except Escape Int
  sinks : List Sink
  machine : Machine

/-- Runs a call between its sinks, which are closed one after the other whatever way it ends. -/
def between (call : Call) (s : Scene) : Visit :=
  match call.run s with
  | (r, _, s) =>
    match (do Act.close .out; Act.close .err : Act Unit) s with
    | (.ok (), s) => ⟨r, [s.out, s.err], s.machine⟩
    | (.error e, s) => ⟨.error e, [s.out, s.err], s.machine⟩

def turnAway (opened : List Sink) (m : Machine) (f : Fault) : Visit :=
  match f with
  | .redirection .. =>
    match opened with
    | [] => reported [] m
    | out :: rest =>
      match out.close m with
      | (.ok (), out, m) => reported (out :: rest) m
      | (.error f, out, m) => ⟨.error (.fault f), out :: rest, m⟩
  | f => ⟨.error (.fault f), opened, m⟩
where
  reported (sinks : List Sink) (m : Machine) : Visit :=
    ⟨.ok 1, sinks, m.print .err (f.message ++ "\n")⟩

def visit (c : Command) (handler : Handler) (m : Machine) : Visit :=
  match Sink.ofTarget .out c.out m with
  | .error f => turnAway [] m f
  | .ok (out, m) =>
    match Sink.ofTarget .err c.err m with
    | .error f => turnAway [out] m f
    | .ok (err, m) =>
      between (c.call handler) ⟨m, out, err⟩

/-- Runs a builtin. A sink that was left open is let go. -/
def runBuiltin (c : Command) (handler : Handler) : Run Int := fun m =>
  let v := visit c handler m
  (v.result, v.sinks.foldl (fun m s => s.abandon m) v.machine)

def runProgram (c : Command) : Run Int := do
  try Run.program c.name c.args c.out c.err none
  catch
    | .fault (.notFound name) =>
      Run.complain ((Fault.notFound name).message ++ "\n")
      return 127
    | .fault (.start reason) =>
      Run.complain s!"Error: {reason}\n"
      return 126
    | escape => throw escape

def dispatch (sh : Session) (c : Command) : Run Int := do
  match sh.handlers.lookup c.name with
  | some handler =>
    Run.note (.builtin c.name c.args)
    runBuiltin c handler
  | none =>
    Run.note (.external c.name c.args)
    runProgram c

def read (line : String) : Run (Option Command) := do
  let words := Line.words line
  Run.note (.words words)
  let x := extract words
  if let some op := x.waiting then Run.note (.dropped op)
  match x.command? with
  | .error f => Run.fail f
  | .ok c? =>
    for message in x.errors do Run.complain (message ++ "\n")
    return c?

def execute (sh : Session) (line : String) : Run Int := do
  match ← read line with
  | none => return 0
  | some c => sh.dispatch c

end Session

end CommandShell
