import CommandShell.Machine
import CommandShell.Path
import CommandShell.Sh.Command
import CommandShell.Sh.Signal

/-! # The state of running scripts

A script runs as a process that starts others: for subshells, for the stages of pipelines, for
programs. What each process has for itself is its shell; what they all see is the world. -/

namespace CommandShell.Sh

/-! ## Bytes and texts -/

def ofBytes (bytes : Bytes) : String := String.ofList (bytes.map fun b => Char.ofNat b.toNat)

def toBytes (text : String) : Bytes := text.toList.map fun c => c.toNat.toUInt8

def pathText (text : String) : String := String.ofList (Utf8.decodeLossy (toBytes text))

def encoded (text : String) : String := ofBytes (Utf8.encode text)

def precedes : List Char → List Char → Bool
  | [], _ => true
  | _ :: _, [] => false
  | a :: as, b :: bs => a.toNat < b.toNat || (a = b && precedes as bs)

def sortTexts (texts : List String) : List String :=
  texts.mergeSort fun a b => precedes a.toList b.toList

/-! ## Options -/

inductive Setting
  | exitOnError
  | noGlobbing
  | ignoreEnd
  | interactive
  | jobControl
  | onlyRead
  | fromInput
  | trace
  | showInput
  | viEditing
  | emacsEditing
  | noClobber
  | exportAll
  | notify
  | unsetIsError
  | privileged
  | noLog
  | debugging
  deriving DecidableEq, Repr

namespace Setting

def table : List (Setting × String × Option Char) :=
  [(exitOnError, "errexit", some 'e'), (noGlobbing, "noglob", some 'f'),
   (ignoreEnd, "ignoreeof", some 'I'), (interactive, "interactive", some 'i'),
   (jobControl, "monitor", some 'm'), (onlyRead, "noexec", some 'n'),
   (fromInput, "stdin", some 's'), (trace, "xtrace", some 'x'), (showInput, "verbose", some 'v'),
   (viEditing, "vi", some 'V'), (emacsEditing, "emacs", some 'E'),
   (noClobber, "noclobber", some 'C'), (exportAll, "allexport", some 'a'),
   (notify, "notify", some 'b'), (unsetIsError, "nounset", some 'u'),
   (privileged, "privileged", some 'p'), (noLog, "nolog", none), (debugging, "debug", none)]

def ofLetter? (c : Char) : Option Setting := (table.find? (·.2.2 = some c)).map (·.1)

def ofName? (name : String) : Option Setting := (table.find? (·.2.1 = name)).map (·.1)

/-- The letters of the options that are on, the last option first. -/
def letters (on : List Setting) : String :=
  String.ofList (table.reverse.filterMap fun (s, _, letter?) => if on.contains s then letter? else none)

end Setting

/-! ## The shell -/

structure Variable where
  value? : Option String := none
  exported : Bool := false
  readOnly : Bool := false
  deriving DecidableEq, Repr

abbrev Functions := List (String × Node)

inductive Saved
  | variable (name : String) (before : Option Variable)
  | settings (before : List Setting)
  deriving Repr

inductive Skip
  | break
  | continue
  /-- The rest of a function, with a status that was given. -/
  | return
  /-- The rest of a function, with the status of the last command. -/
  | returnLast
  deriving DecidableEq, Repr

/-- Where `getopts` stands: the argument that comes next, and the place in the one before it. -/
structure OptionPlace where
  index : Nat := 1
  offset? : Option Nat := none
  deriving Repr

structure Job where
  number : Nat
  process : Nat
  /-- Somebody has waited for its end. -/
  waited : Bool := false
  deriving Repr

structure Shell where
  /-- The name that messages start with. -/
  name : String
  /-- The process, the one that the script was started in, and the one that started that. -/
  process : Nat
  root : Nat
  parent : Nat
  arguments : List String
  optionPlace : OptionPlace := {}
  values : List (String × Variable) := []
  /-- What to bring back at the end of each function, the innermost first. -/
  locals : List (List Saved) := []
  functions : Functions := []
  aliases : List (String × String) := []
  settings : List Setting := []
  /-- What is done for a signal. Nothing at all is the empty text. -/
  traps : List (Signal × String) := []
  pending : List Signal := []
  /-- The signals that it does not care about and never will. -/
  ignored : List Signal := []
  /-- The channels of the descriptors. -/
  descriptors : List (Nat × Nat) := [(0, 0), (1, 1), (2, 2)]
  cwd : Ino := Disk.root
  /-- The path under which the working directory was reached, if it is known. -/
  here : String := ""
  status : Nat := 0
  /-- The status of the last command substitution of a command. -/
  substituted : Nat := 0
  /-- The status that a script ends with when that is not the last one. -/
  ending? : Option Nat := none
  skip? : Option Skip := none
  skipCount : Nat := 0
  loops : Nat := 0
  /-- How many functions run within each other. -/
  calls : Nat := 0
  /-- The line of the command that runs, and the one that reading has come to. -/
  line : Nat := 0
  readingLine : Nat := 0
  /-- The utility that runs, for its messages. -/
  command? : Option String := none
  /-- Where programs were found. -/
  found : List (String × String) := []
  /-- Texts of the script that redirections refer to. -/
  documents : Array Word := #[]
  /-- The process that was last put into the background, and all that are still known. -/
  background? : Option Nat := none
  jobs : List Job := []
  mask : Nat := 0o022
  /-- What a utility has written and not yet handed on. -/
  buffer : String := ""

/-! ## The world -/

/-- Something that is open. All descriptors that lead to it share the place that they stand at. -/
inductive Channel
  /-- It has no content and keeps none. -/
  | nothing
  /-- It is caught by whoever started the script. -/
  | caught (s : Stream)
  | file (node : Ino) (offset : Nat) (reads writes appends : Bool)
  | pipe (index : Nat) (writes : Bool)
  deriving Repr

structure Pipe where
  content : Array Char := #[]
  /-- How much of the content was read. -/
  taken : Nat := 0
  deriving Repr

/-- A command that runs in the background, which is as soon as somebody waits. -/
structure Deferred where
  process : Nat
  shell : Shell
  body : Node

structure World where
  disk : Disk
  channels : Array Channel := #[.nothing, .caught .out, .caught .err]
  pipes : Array Pipe := #[]
  /-- What was caught, the last text first. -/
  out : List String := []
  err : List String := []
  nextProcess : Nat
  /-- Signals that were sent to processes which did not run. -/
  sent : List (Nat × Signal) := []
  deferred : List Deferred := []
  /-- How processes in the background ended. -/
  ended : List (Nat × Int) := []

structure State where
  world : World
  shell : Shell

inductive Stop
  /-- With a status that was asked for. -/
  | exit
  /-- With an error, which a utility may keep to itself. -/
  | error
  /-- With the status of the last command. -/
  | ended
  | killed (s : Signal)
  /-- It became another program, which ended like this. -/
  | replaced (status : Int)
  /-- It had more to do than anybody could wait for. -/
  | exhausted
  deriving DecidableEq, Repr

abbrev Eval (α : Type) := ExceptT Stop (StateM State) α

namespace Eval

def shell : Eval Shell := do return (← get).shell

def world : Eval World := do return (← get).world

def setShell (f : Shell → Shell) : Eval Unit := modify fun s => { s with shell := f s.shell }

def setWorld (f : World → World) : Eval Unit := modify fun s => { s with world := f s.world }

def setStatus (status : Nat) : Eval Unit := setShell fun sh => { sh with status }

def turns : Nat := 0x10000000

end Eval

end CommandShell.Sh
