import CommandShell.Image
import CommandShell.Machine
import CommandShell.Path

/-! # Programs

The shell looks a program up on its search path; the machine starts it from a file, by a path or by
a search of its own. -/

namespace CommandShell

/-! ## Looking up -/

/-- The directories of a search path, in order. An empty path has none; an empty piece of a path
that is not empty is a directory like any other. -/
def searchDirectories (path : String) : List String :=
  if path.isEmpty then [] else separate ':' path

namespace Machine

def searchPath (m : Machine) (given? : Option String) : String :=
  given?.getD (m.environment.getD "PATH" "")

def hasProgram (m : Machine) (path : String) : Bool :=
  m.disk.hasNode m.cwd path && !m.disk.hasDirectory m.cwd path

/-- The first program of a name on the search path. It need not be executable. -/
def findProgram? (m : Machine) (name : String) (given? : Option String) : Option String :=
  ((searchDirectories (m.searchPath given?)).map (Path.join · name)).find? m.hasProgram

def lookUp (m : Machine) (name : String) (given? : Option String) : Option String × Machine :=
  match m.findProgram? name given? with
  | some path => (some path, m.note (.resolved name path))
  | none => (none, m)

end Machine

/-! ## Starting -/

namespace Machine

def startError? (m : Machine) (argv : List String) : Option Errno :=
  argumentError? argv <|> m.startError

def execute (m : Machine) (path : String) (argv : List String) : Except Errno Finished :=
  match m.disk.imageUnless (m.startError? argv) (m.programs · |>.isSome) m.cwd path with
  | .error e => .error e
  | .ok (image, before) =>
    let argv := if before.isEmpty then argv else before ++ argv.drop 1
    match m.programs image with
    | some program => .ok (program ⟨argv, m.environment, m.cwd⟩ m.disk)
    | none => .error .notExecutable

/-- The paths under which a program file is started: a name without a slash is tried in every
directory of the search path of the environment. -/
def startPaths (m : Machine) (program : String) : List String :=
  if program.toList.contains '/' then [program]
  else (separate ':' (m.environment.getD "PATH" "/bin:/usr/bin")).map (Path.join · program)

/-- Starts the first of several files that can be, and tells which one that was. The first error
that does not just say that there is no such file is the one that counts. -/
def startFirst (m : Machine) (argv : List String) (last : Errno) (saved? : Option Errno) :
    List String → Except Errno (String × Finished)
  | [] => .error (saved?.getD last)
  | path :: rest =>
    match m.execute path argv with
    | .ok finished => .ok (path, finished)
    | .error e =>
      startFirst m argv e
        (if e = .noEntry || e = .notDirectory then saved? else saved? <|> some e) rest

def start (m : Machine) (program : String) (argv : List String) :
    Except Fault (String × Finished) :=
  if argv.any (!Disk.isPathText ·) then .error (.start Fault.nullByte.message)
  else match m.startFirst argv .noEntry none (m.startPaths program) with
    | .ok started => .ok started
    | .error e => .error (.start e.text)

end Machine

end CommandShell
