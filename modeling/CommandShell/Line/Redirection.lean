import CommandShell.Fault
import CommandShell.Line.Word

/-! # Redirections and commands

A command is a name, its arguments, and a target for each output stream. Operators in the line say
where the streams go. -/

namespace CommandShell

inductive Stream
  | out
  | err
  deriving DecidableEq, Repr

inductive OpenMode
  | overwrite
  | append
  deriving DecidableEq, Repr

def OpenMode.word : OpenMode → String
  | .overwrite => "write"
  | .append => "append"

def OpenMode.ofWord? : String → Option OpenMode
  | "write" => some .overwrite
  | "append" => some .append
  | _ => none

/-- Where a stream goes: to the file at a path, or to the console when there is no path. -/
structure Target where
  path? : Option String := none
  mode : OpenMode := .overwrite
  deriving DecidableEq, Repr

namespace Target

def console : Target := {}

def file (path : String) (mode : OpenMode) : Target := ⟨some path, mode⟩

def isConsole (t : Target) : Bool := t.path?.isNone

def describe (t : Target) : String :=
  match t.path? with
  | none => "RedirectionTarget(console)"
  | some path => s!"RedirectionTarget({Quoted.quote path}, {t.mode.word})"

end Target

inductive Operator
  | write
  | writeOne
  | append
  | appendOne
  | errWrite
  | errAppend
  deriving DecidableEq, Repr

namespace Operator

def symbol : Operator → String
  | .write => ">"
  | .writeOne => "1>"
  | .append => ">>"
  | .appendOne => "1>>"
  | .errWrite => "2>"
  | .errAppend => "2>>"

def all : List Operator := [.write, .writeOne, .append, .appendOne, .errWrite, .errAppend]

def ofWord? (word : String) : Option Operator := all.find? (·.symbol = word)

def stream : Operator → Stream
  | .write | .writeOne | .append | .appendOne => .out
  | .errWrite | .errAppend => .err

def mode : Operator → OpenMode
  | .write | .writeOne | .errWrite => .overwrite
  | .append | .appendOne | .errAppend => .append

end Operator

/-- What reading the words of a line has found: the words of the command, the target of each
stream, and an operator that still waits for its path. -/
structure Extraction where
  words : Array String := #[]
  out : Target := .console
  err : Target := .console
  waiting : Option Operator := none

namespace Extraction

/-- Sends a stream to a file. A later redirection of the stream replaces an earlier one. -/
def redirect (x : Extraction) (op : Operator) (path : String) : Extraction :=
  match op.stream with
  | .out => { x with out := .file path op.mode, waiting := none }
  | .err => { x with err := .file path op.mode, waiting := none }

def step (x : Extraction) (word : String) : Extraction :=
  match x.waiting with
  | some op => x.redirect op word
  | none =>
    match Operator.ofWord? word with
    | some op => { x with waiting := some op }
    | none => { x with words := x.words.push word }

end Extraction

def extract (words : List String) : Extraction := words.foldl Extraction.step {}

def Operator.missingPath (op : Operator) : String :=
  match op.mode with
  | .overwrite => "Syntax error: missing filename for redirection"
  | .append => "Syntax error: missing filename for append"

def Extraction.errors (x : Extraction) : List String :=
  (x.waiting.map Operator.missingPath).toList

/-! ## Commands -/

structure Command where
  name : String
  args : List String := []
  out : Target := .console
  err : Target := .console
  deriving DecidableEq, Repr

namespace Command

def make (name : String) (args : List String) (out err : Target) : Except Fault Command :=
  if name.isEmpty then .error .noName else .ok ⟨name, args, out, err⟩

def argText (args : List String) : String := String.intercalate " " args

def describe (c : Command) : String :=
  s!"ParsedCommand(name={Quoted.quote c.name}, args={Quoted.quoteList c.args}, " ++
    s!"stdout={c.out.describe}, stderr={c.err.describe})"

end Command

def Extraction.command? (x : Extraction) : Except Fault (Option Command) :=
  match x.words.toList with
  | [] => .ok none
  | name :: args => (Command.make name args x.out x.err).map some

def Line.parse (line : String) : Extraction := extract (Line.words line)

end CommandShell
