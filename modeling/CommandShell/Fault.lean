import CommandShell.Errno
import CommandShell.Text.Quoted
import CommandShell.Text.Utf8

/-! # Faults

What can go wrong in the shell, by cause, and the one wording of each cause. -/

namespace CommandShell

inductive Fault
  /-- A name is neither a builtin nor a program on the search path. -/
  | notFound (name : String)
  /-- A builtin was called with arguments that it does not take. -/
  | usage (message : String)
  /-- The file of a redirection could not be opened. -/
  | redirection (path reason : String)
  /-- A program could not be started. -/
  | start (reason : String)
  /-- Any other trouble that the shell reports itself. -/
  | shell (message : String)
  /-- The system refused a call, which may have named a path. -/
  | system (error : Errno) (path? : Option String)
  /-- A path holds the character U+0000. -/
  | nullByte
  /-- A command without a name. -/
  | noName
  /-- A write to a sink that was closed before. -/
  | closedSink (name : String)
  /-- A word that names no value of a kind. -/
  | noSuchValue (word kind : String)
  /-- A file that is no text. -/
  | undecodable (error : Utf8.DecodeError)
  /-- A handler was given a value it cannot use. -/
  | value (message : String)
  /-- A handler broke down. -/
  | breakdown (message : String)
  deriving DecidableEq, Repr

def Utf8.DecodeError.message (e : Utf8.DecodeError) : String :=
  let place := match e.bytes with
    | [b] => s!"byte 0x{Quoted.hex 2 b.toNat} in position {e.position}"
    | bytes => s!"bytes in position {e.position}-{e.position + bytes.length - 1}"
  s!"'utf-8' codec can't decode {place}: {e.flaw.reason}"

namespace Fault

def message : Fault → String
  | notFound name => s!"{name}: not found"
  | usage text | start text | shell text | value text | breakdown text => text
  | redirection path reason => s!"linesh: {path}: {reason}"
  | system error none => s!"[Errno {error.code}] {error.text}"
  | system error (some path) => s!"[Errno {error.code}] {error.text}: {Quoted.quote path}"
  | nullByte => "embedded null byte"
  | noName => "command name must not be empty"
  | closedSink name => s!"write to closed stream {name}"
  | noSuchValue word kind => s!"{Quoted.quote word} is not a valid {kind}"
  | undecodable error => error.message

/-- The shell itself reports a fault of this kind and goes on. -/
def isReported : Fault → Bool
  | notFound _ | usage _ | redirection .. | start _ | shell _ => true
  | _ => false

end Fault

inductive ExitStatus
  | none
  | code (n : Int)
  | message (text : String)
  deriving DecidableEq, Repr

inductive Escape
  | fault (f : Fault)
  /-- The shell is to end. -/
  | exit (status : ExitStatus)
  /-- The user interrupted the call. -/
  | interrupt (message : String)
  deriving DecidableEq, Repr

end CommandShell
