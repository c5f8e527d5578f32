import CommandShell.Sh.Condition
import CommandShell.Sh.Format
import CommandShell.Sh.Start
import CommandShell.Sh.Utility.Directory
import CommandShell.Sh.Utility.Names
import CommandShell.Sh.Utility.Signals

/-! # The utilities

Those that write and test, those that pass over commands, end the script, or run other commands, and
the table of all utilities. -/

namespace CommandShell.Sh.Utility

open Eval

/-! ## Writing, testing and measures -/

def echo (args : List String) : Eval Nat := do
  print (echoText args)
  return 0

def printf (args : List String) : Eval Nat := do
  match ← operands args with
  | [] => fail "usage: printf format [arg ...]"
  | text :: args =>
    let (ending, p) := Format.write text args
    p.warnings.forM warn
    print p.out
    match ending with
    | .error (.error message) => fail message
    | _ => return if p.failed then 1 else 0

def test (bracketed : Bool) (args : List String) : Eval Nat := do
  if bracketed && !(args.getLast?.any (·.startsWith "]")) then fail "missing ]"
  let words := if bracketed then args.dropLast else args
  let s ← get
  match Condition.holds s.world.disk s.shell.cwd (words.length + 1) words with
  | .ok holds => return if holds then 0 else 1
  | .error message => fail message

def times : Eval Nat := do
  let line := "0m0.000000s 0m0.000000s\n"
  print (line ++ line)
  return 0

def limits (args : List String) : Eval Nat := do
  let (_, args) ← takeOptions "HSatfdsmcnpvlwr" args
  if args.isEmpty then print "unlimited\n"
  return 0

/-! ## Leaving -/

def leaveLoops (skip : Skip) (args : List String) : Eval Nat := do
  let count ← match args with
    | [] => pure 1
    | text :: _ => do
      let n ← number text
      if n = 0 then fail s!"Illegal number: {text}" else pure n
  setShell fun sh =>
    let count := if sh.loops < count then sh.loops else count
    if count = 0 then sh else { sh with skip? := some skip, skipCount := count }
  return 0

def leaveFunction (args : List String) : Eval Nat := do
  match args with
  | [] =>
    setShell fun sh => { sh with skip? := some .returnLast }
    return (← shell).status
  | text :: _ =>
    let status ← number text
    setShell fun sh => { sh with skip? := some .return }
    return status

def exit (args : List String) : Eval Nat := do
  if let text :: _ := args then
    let status ← number text
    setShell fun sh => { sh with ending? := some status }
  throw .exit

/-! ## Running other commands -/

def evaluate (run : Runner) (purpose : Purpose) (args : List String) : Eval Nat :=
  runText run { purpose with last := false } (" ".intercalate args)

def sourcePath (name : String) : Eval String := do
  if name.toList.contains '/' then return name
  let s ← get
  let isFile (path : String) : Bool :=
    match s.world.disk.locate s.shell.cwd (pathText path) with
    | .ok i => (s.world.disk.node? i).any (· matches .regular ..)
    | .error _ => false
  let paths := match s.shell.value? "PATH" with
    | some path => pathsIn path name
    | none => []
  match paths.find? isFile with
  | some path => return path
  | none => fail s!"{name}: not found"

def source (run : Runner) (args : List String) : Eval Nat := do
  match ← operands args with
  | [] => return 0
  | name :: _ =>
    let path ← sourcePath name
    let d ← openScript path
    setShell fun sh => { sh with command? := some path }
    let status ← runFile run d
    close d
    return status

def exec (run : Runner) (args : List String) : Eval Nat := do
  match args with
  | [] => return 0
  | name :: _ =>
    let path? := (← shell).value? "PATH"
    let paths := if name.toList.contains '/' then [name]
      else match path? with
        | some path => pathsIn path name
        | none => []
    become run args paths

/-! ## All utilities -/

def perform (run : Runner) (purpose : Purpose) (name : String) (args : List String) : Eval Nat :=
  match name with
  | ":" | "true" => return 0
  | "false" => return 1
  | "." => source run args
  | "[" => test true args
  | "alias" => setAliases args
  | "bg" | "fg" => refuseMove args
  | "break" => leaveLoops .break args
  | "cd" | "chdir" => cd args
  | "command" => command args
  | "continue" => leaveLoops .continue args
  | "echo" => echo args
  | "eval" => evaluate run purpose args
  | "exec" => exec run args
  | "exit" => exit args
  | "export" => mark name true false args
  | "getopts" => getopts args
  | "hash" => hash args
  | "jobs" => jobs args
  | "kill" => kill args
  | "local" => localVariables args
  | "printf" => printf args
  | "pwd" => pwd args
  | "read" => read args
  | "readonly" => mark name false true args
  | "return" => leaveFunction args
  | "set" => set args
  | "shift" => shift args
  | "test" => test false args
  | "times" => times
  | "trap" => trap args
  | "type" => type args
  | "ulimit" => limits args
  | "umask" => umask args
  | "unalias" => unalias args
  | "unset" => unsetNames args
  | "wait" => wait run args
  | _ => return 0

end CommandShell.Sh.Utility
