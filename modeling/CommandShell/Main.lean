import CommandShell.Boot
import CommandShell.CommandLine
import CommandShell.Disk.Tree

/-! # The program

Runs a command line on a machine that is kept in memory. The machine starts with the files that the
arguments name, and what it shows on its consoles is printed when it has come to its end. -/

namespace CommandShell

def environmentNames : List String := ["HOME", "LINESH_DEBUG", "LINESH_PROMPT", "PATH"]

def readEnvironment : IO Environment := do
  let mut environment : Environment := {}
  for name in environmentNames do
    if let some value ← IO.getEnv name then environment := environment.set name value
  return environment

def loadFile (m : Machine) (path : String) : IO Machine := do
  match ← (IO.FS.readBinFile path).toBaseIO with
  | .error _ => return m
  | .ok content =>
    match m.disk.install m.cwd path (.file content.toList 0o644) with
    | .ok disk => return { m with disk }
    | .error _ => return m

partial def readRest (input : IO.FS.Stream) (before : String) : IO String := do
  let line ← input.getLine
  if line.isEmpty then return before else readRest input (before ++ line)

def exitReport : Except Escape Int → UInt32 × String
  | .ok n | .error (.exit (.code n)) => ((n % 256).toNat.toUInt32, "")
  | .error (.exit .none) => (0, "")
  | .error (.exit (.message text)) => (1, text ++ "\n")
  | .error (.interrupt text) => (130, text ++ "\n")
  | .error (.fault f) => (1, f.message ++ "\n")

end CommandShell

open CommandShell in
def main (args : List String) : IO UInt32 := do
  let machine := { Machine.standard with environment := ← readEnvironment }
  let machine ← args.foldlM loadFile machine
  let input ← if CommandLine.readsInput args then readRest (← IO.getStdin) "" else pure ""
  let (result, machine) := CommandLine.run args input machine
  let (status, report) := exitReport result
  IO.print machine.out.text
  IO.eprint (machine.err.text ++ report)
  return status
