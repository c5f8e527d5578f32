import CommandShell.Disk.Walk
import CommandShell.Fault
import CommandShell.Settings

/-! # The machine that commands run on

Everything that a command can see or change: files, working directory, environment, the two
consoles, and the records and prompts that the shell leaves behind. -/

namespace CommandShell

structure Console where
  text : String := ""
  terminal : Bool := false
  plain : Bool := false
  deriving DecidableEq, Repr

namespace Console

def isColoured (c : Console) : Bool := c.terminal && !c.plain

def inRed (text : String) : String := "\x1b[31m" ++ text ++ "\x1b[0m"

def write (c : Console) (text : String) : Console := { c with text := c.text ++ text }

end Console

/-- What the shell notes down for those who look for faults in it. -/
inductive Event
  | words (words : List String)
  | dropped (op : Operator)
  | builtin (name : String) (args : List String)
  | external (name : String) (args : List String)
  | resolved (name path : String)
  | moved (path : String)
  | ended (program : String) (status : Int)
  deriving DecidableEq, Repr

def Event.record : Event → String
  | words ws => s!"linesh.parser: tokens: {Quoted.quoteList ws}"
  | dropped op => s!"linesh.parser: dropping bare operator {Quoted.quote op.symbol}"
  | builtin name args => s!"linesh.shell: builtin {name} {Quoted.quoteList args}"
  | external name args => s!"linesh.shell: external {name} {Quoted.quoteList args}"
  | resolved name path => s!"linesh.filesystem: resolved {name} -> {path}"
  | moved path => s!"linesh.filesystem: cwd is now {path}"
  | ended program status => s!"linesh.external: {program} exited with {status}"

structure Invocation where
  argv : List String
  environment : Environment
  cwd : Ino
  deriving Repr

structure Finished where
  status : Int
  out : Bytes
  err : Bytes
  disk : Disk
  deriving Repr

/-- A program is known by what it does when it is started on a disk. -/
abbrev Program := Invocation → Disk → Finished

structure Machine where
  disk : Disk
  cwd : Ino := Disk.root
  environment : Environment := {}
  /-- The programs that the machine runs by itself, by the content of their files. -/
  programs : Bytes → Option Program := fun _ => none
  /-- With an error here, every change of directory that gets as far as the system fails with it. -/
  chdirError : Option Errno := none
  /-- With an error here, every start of a file that may be run fails with it. -/
  startError : Option Errno := none
  out : Console := {}
  err : Console := {}
  events : Array Event := #[]
  prompts : Array String := #[]

namespace Machine

def console (m : Machine) : Stream → Console
  | .out => m.out
  | .err => m.err

def setConsole (m : Machine) : Stream → Console → Machine
  | .out, c => { m with out := c }
  | .err, c => { m with err := c }

def display (m : Machine) (s : Stream) (text : String) : Machine :=
  m.setConsole s ((m.console s).write text)

def print (m : Machine) (s : Stream) (text : String) : Machine :=
  match s with
  | .out => m.display .out text
  | .err => m.display .err (if m.err.isColoured then Console.inRed text else text)

def note (m : Machine) (e : Event) : Machine := { m with events := m.events.push e }

def cwdPath (m : Machine) : Except Errno String :=
  match m.disk.pathOf? m.cwd with
  | some path => .ok path
  | none => .error .noEntry

end Machine

abbrev Run (α : Type) := ExceptT Escape (StateM Machine) α

namespace Run

def fail {α : Type} (f : Fault) : Run α := throw (.fault f)

def complain (text : String) : Run Unit :=
  modify fun m => if text.isEmpty then m else m.print .err text

def note (e : Event) : Run Unit := modify (·.note e)

end Run

end CommandShell
