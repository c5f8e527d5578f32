import CommandShell.Machine
import CommandShell.Path

/-! # The working directory -/

namespace CommandShell

inductive MoveStatus
  | moved
  | notFound
  | denied
  | other
  deriving DecidableEq, Repr

namespace MoveStatus

def word : MoveStatus → String
  | moved => "ok"
  | notFound => "not_found"
  | denied => "permission_denied"
  | other => "other"

def label : MoveStatus → String
  | moved => "OK"
  | notFound => "NOT_FOUND"
  | denied => "PERMISSION_DENIED"
  | other => "OTHER"

def ofWord? (word : String) : Option MoveStatus :=
  [moved, notFound, denied, other].find? (·.word = word)

def ofErrno (e : Errno) : MoveStatus :=
  if e = .noEntry then notFound
  else if e = .accessDenied || e = .notPermitted then denied
  else other

end MoveStatus

structure Move where
  status : MoveStatus
  path : String
  message : String := ""
  deriving DecidableEq, Repr

namespace Move

def isOk (r : Move) : Bool := r.status = .moved

def reason (r : Move) : String :=
  match r.status with
  | .notFound => Errno.noEntry.text
  | .denied => Errno.accessDenied.text
  | .moved | .other => r.message

def describe (r : Move) : String :=
  s!"ChangeDirResult({r.status.label}, {Quoted.quote r.path})"

def refused (path : String) (e : Errno) : Move :=
  match MoveStatus.ofErrno e with
  | .other => ⟨.other, path, e.text⟩
  | status => ⟨status, path, ""⟩

end Move

namespace Machine

/-- The directory that `cd` means by a path: `~` is the home directory, a relative path is seen
from `cwd?` or else from the working directory, an absolute path stays as it is. -/
def resolve (m : Machine) (path : String) (cwd? : Option String) : Except Fault String :=
  if path = "~" then .ok (m.environment.getD "HOME" "")
  else if Path.isAbsolute path then .ok path
  else match cwd? with
    | some cwd => if cwd.isEmpty then here else .ok (Path.simplify (Path.join cwd path))
    | none => here
where
  here : Except Fault String :=
    match m.cwdPath with
    | .ok cwd => .ok (Path.simplify (Path.join cwd path))
    | .error e => .error (.system e none)

def enter (m : Machine) (path : String) : Except Errno Machine :=
  match m.chdirError with
  | some e => .error e
  | none =>
    match m.disk.locate m.cwd path with
    | .error e => .error e
    | .ok i => if m.disk.isDirectory i then .ok { m with cwd := i } else .error .notDirectory

def changeDirectory (m : Machine) (path : String) : Move × Machine :=
  if !m.disk.hasDirectory m.cwd path then (⟨.notFound, path, ""⟩, m)
  else match m.enter path with
    | .error e => (Move.refused path e, m)
    | .ok m => (⟨.moved, path, ""⟩, m.note (.moved path))

end Machine

end CommandShell
