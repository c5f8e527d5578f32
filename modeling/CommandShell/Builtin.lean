import CommandShell.Directory
import CommandShell.Handler
import CommandShell.Program

/-! # Builtins

The commands that the shell runs by itself. -/

namespace CommandShell.Builtin

def echo : Handler := fun e => do
  Act.write .out (e.argText ++ "\n")
  return 0

/-- Ends the shell. Zero is the only status that it takes. -/
def exit : Handler := fun e =>
  if e.argText = "0" then throw (.exit (.code 0)) else Act.fail (.usage "Usage: exit 0")

def names : List String := ["cd", "echo", "exit", "pwd", "type"]

def type : Handler := fun e => do
  let name := e.argText
  if name.isEmpty then Act.fail (.usage "Usage: type <command>")
  else if names.contains name then
    Act.write .out s!"{name} is a shell builtin\n"
    return 0
  else
    let (path?, machine) := (← get).machine.lookUp name none
    modify fun s => { s with machine }
    match path? with
    | none =>
      Act.write .out s!"{name}: not found\n"
      return 1
    | some path =>
      Act.write .out s!"{name} is {path}\n"
      return 0

def pwd : Handler := fun _ => do
  match (← get).machine.cwdPath with
  | .ok path =>
    Act.write .out (path ++ "\n")
    return 0
  | .error e => Act.fail (.system e none)

def cd : Handler := fun e => do
  if e.argText.isEmpty then Act.fail (.usage "Usage: cd <directory>")
  else match (← get).machine.resolve e.argText none with
    | .error f => Act.fail f
    | .ok path =>
      let (result, machine) := (← get).machine.changeDirectory path
      modify fun s => { s with machine }
      if result.isOk then return 0
      else
        Act.write .err s!"cd: {result.path}: {result.reason}\n"
        return 1

def handlers : List (String × Handler) :=
  [("cd", cd), ("echo", echo), ("exit", exit), ("pwd", pwd), ("type", type)]

end CommandShell.Builtin
