import CommandShell.Image
import CommandShell.Sh.Variable

/-! # What commands are

A command is known by its name: as a function, as a utility of the shell, or as a program in one of
the directories of the search path. -/

namespace CommandShell.Sh

inductive Meaning
  | function (body : Node)
  | utility
  /-- The paths under which its file may be, the first one being where it was found. -/
  | program (paths : List String)
  | nothing (e : Errno)

/-- The search path where none is set, and the one in which the standard utilities are. -/
def defaultPath : String := "/usr/local/sbin:/usr/local/bin:/usr/sbin:/usr/bin:/sbin:/bin"

def pathsIn (path name : String) : List String :=
  (separate ':' path).map fun directory =>
    if directory.isEmpty then name else directory ++ "/" ++ name

def searchProgram (d : Disk) (cwd : Ino) (e : Errno) : List String → Except Errno (List String)
  | [] => .error e
  | path :: rest =>
    match d.locate cwd (pathText path) with
    | .error reason =>
      let e := if reason = .noEntry || reason = .notDirectory then e else reason
      searchProgram d cwd e rest
    | .ok i =>
      match d.node? i with
      | some (.regular _ mode) =>
        if Right.run.isIn mode then .ok (path :: rest)
        else searchProgram d cwd .accessDenied rest
      | _ => searchProgram d cwd .accessDenied rest

def commandError (e : Errno) : String :=
  if e = .noEntry || e = .notDirectory then "not found" else e.text

namespace Eval

def forget (name : String) : Eval Unit := setShell fun sh =>
  { sh with found := sh.found.filter (·.1 ≠ name) }

/-- Finds out what a name leads to. Where a program is found by the search path that is set, its
place is kept in mind. Another search path takes no notice of what is. -/
def lookUp (functions : Bool) (otherPath? : Option String) (name : String) : Eval Meaning := do
  let s ← get
  let sh := s.shell
  if name.toList.contains '/' then return .program [name]
  match if functions then sh.functions.lookup name else none with
  | some body => return .function body
  | none =>
    if utilityNames.contains name then return .utility
    let search (path? : Option String) : Except Errno (List String) :=
      let paths := match path? with
        | some path => pathsIn path name
        | none => []
      searchProgram s.world.disk sh.cwd .noEntry paths
    match otherPath? with
    | some path =>
      match search (some path) with
      | .ok paths => return .program paths
      | .error e => return .nothing e
    | none =>
      let path? := sh.value? "PATH"
      match sh.found.lookup name with
      | some known => return .program ((pathsIn (path?.getD "") name).dropWhile (· ≠ known))
      | none =>
        match search path? with
        | .error e => return .nothing e
        | .ok paths =>
          setShell fun sh => { sh with found := sh.found ++ [(name, paths.headD "")] }
          return .program paths

end Eval

end CommandShell.Sh
