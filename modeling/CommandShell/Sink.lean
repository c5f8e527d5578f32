import CommandShell.Handle
import CommandShell.Machine

/-! # Sinks

A sink takes the text of one output stream and passes it to a console, to a file, or to a store in
memory. Only a file sink is ever closed. -/

namespace CommandShell

inductive Outlet
  | console
  | file (handle : Handle)
  | memory (text : String)
  deriving DecidableEq, Repr

structure Sink where
  stream : Stream
  outlet : Outlet
  name : String
  closed : Bool := false
  deriving DecidableEq, Repr

namespace Sink

def toConsole (s : Stream) : Sink := ⟨s, .console, "<console>", false⟩

def toMemory (s : Stream) : Sink := ⟨s, .memory "", "<buffer>", false⟩

def toFile (s : Stream) (path : String) (mode : OpenMode) (m : Machine) :
    Except Fault (Sink × Machine) :=
  if !Disk.isPathText path then .error .nullByte
  else match Handle.openAt m.disk m.cwd path mode with
    | .ok (h, disk) => .ok (⟨s, .file h, path, false⟩, { m with disk })
    | .error e => .error (.redirection path e.text)

def ofTarget (s : Stream) (t : Target) (m : Machine) : Except Fault (Sink × Machine) :=
  match t.path? with
  | none => .ok (toConsole s, m)
  | some path => toFile s path t.mode m

abbrev Step (α : Type) := Sink → Machine → Except Fault α × Sink × Machine

def onHandle (s : Sink) (h : Handle) (step : Handle.Step) (m : Machine) :
    Except Fault Unit × Sink × Machine :=
  match step (h, m.disk) with
  | (r, h, disk) =>
    (r.mapError (.system · none), { s with outlet := .file h }, { m with disk })

def write (text : String) : Step Nat := fun s m =>
  if text.isEmpty then (.ok 0, s, m)
  else if s.closed then (.error (.closedSink s.name), s, m)
  else match s.outlet with
    | .console => (.ok text.length, s, m.print s.stream text)
    | .memory before => (.ok text.length, { s with outlet := .memory (before ++ text) }, m)
    | .file h =>
      match s.onHandle h (Handle.write (Utf8.encode text)) m with
      | (.ok (), s, m) => (.ok text.length, s, m)
      | (.error f, s, m) => (.error f, s, m)

def writeBytes (bytes : Bytes) : Step Nat := write (String.ofList (Utf8.decodeLossy bytes))

def flush : Step Unit := fun s m =>
  match s.outlet with
  | .file h => if s.closed then (.ok (), s, m) else s.onHandle h Handle.flush m
  | _ => (.ok (), s, m)

/-- Flushes, and lets go of the file. A sink that cannot be flushed stays open. -/
def close : Step Unit := fun s m =>
  if s.closed then (.ok (), s, m)
  else match flush s m with
    | (.ok (), s, m) =>
      match s.outlet with
      | .file _ => (.ok (), { s with closed := true }, m)
      | _ => (.ok (), s, m)
    | (.error f, s, m) => (.error f, s, m)

/-- Lets go of a sink that nobody holds any more: what can still be written is written. -/
def abandon (s : Sink) (m : Machine) : Machine :=
  if s.closed then m else (flush s m).2.2

def value (s : Sink) : String :=
  match s.outlet with
  | .memory text => text
  | _ => ""

def describe (s : Sink) : String :=
  match s.stream with
  | .out => s!"OutputStream({s.name})"
  | .err => s!"ErrorStream({s.name})"

end Sink

end CommandShell
