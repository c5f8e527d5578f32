import CommandShell.Line.Word
import CommandShell.Session

/-! # Scripts

A script is a file of lines that run one after the other until one of them fails. -/

namespace CommandShell

/-- The lines of a script that are to run, stripped, with their numbers in the file. Blank lines and
lines that start with `#` are left out. -/
def scriptLines (content : List Char) : List (Nat × String) :=
  ((Newline.lines (Newline.unify content)).map stripChars).zipIdx 1
    |>.filter (fun (line, _) => line ≠ [] && line.head? ≠ some '#')
    |>.map fun (line, number) => (number, String.ofList line)

/-- What a script says about itself, on the error output of the process and not on a console. -/
inductive ScriptReport
  | notFound (path : String)
  | unreadable (path reason : String)
  | failed (number : Nat) (status : Int)
  deriving DecidableEq, Repr

namespace ScriptReport

def message : ScriptReport → String
  | notFound path => s!"linesh: {path}: No such file or directory\n"
  | unreadable path reason => s!"linesh: {path}: {reason}\n"
  | failed number status => s!"Error at line {number}: command failed with exit code {status}\n"

end ScriptReport

namespace Session

def runLines (sh : Session) : List (Nat × String) → Run (Int × Option ScriptReport)
  | [] => return (0, none)
  | (number, line) :: rest => do
    let status ← sh.execute line
    if status = 0 then runLines sh rest else return (status, some (.failed number status))

def runScript (sh : Session) (path : String) : Run (Int × Option ScriptReport) := do
  let m ← get
  if !Disk.isPathText path then Run.fail .nullByte
  else match m.disk.contentAt m.cwd path with
    | .error e =>
      if e = .noEntry then return (127, some (.notFound path))
      else return (1, some (.unreadable path e.text))
    | .ok content =>
      match Utf8.decodeFile content with
      | .error e => Run.fail (.undecodable e)
      | .ok text => sh.runLines (scriptLines text)

end Session

end CommandShell
