import CommandShell.Disk.Basic
import CommandShell.Line.Redirection
import CommandShell.Path

/-! # Walking a path

A path is followed name by name. A symbolic link puts the names of its target in front of those
that are left; a walk follows forty links and no more. -/

namespace CommandShell.Disk

def nameLimit : Nat := 255
def pathLimit : Nat := 4095

inductive Intent
  | use
  | create
  deriving DecidableEq, Repr

/-- The names of a path. A slash at the end leaves an empty name behind, which stands for the
directory reached so far. -/
def names (path : String) : List String :=
  let pieces := separate '/' path
  pieces.filter (· ≠ "") ++ if pieces.getLast? = some "" then [""] else []

def origin (cwd : Ino) (path : String) : Ino :=
  if path.toList.head? = some '/' then root else cwd

inductive Stop
  | found (i : Ino)
  /-- Only the last name is missing, in a directory that is there. -/
  | vacant (dir : Ino) (name : String)
  | link (dir : Ino) (target : String) (rest : List String)
  | failed (e : Errno)
  deriving DecidableEq, Repr

def advance (d : Disk) (intent : Intent) : Ino → List String → Stop
  | dir, [] => .found dir
  | dir, name :: rest =>
    match d.node? dir with
    | some (.directory parent entries) =>
      if intent = .create ∧ rest = [""] then .failed .isDirectory
      else if name = "" ∨ name = "." then advance d intent dir rest
      else if name = ".." then advance d intent parent rest
      else if name.utf8ByteSize > nameLimit then .failed .nameTooLong
      else match entries.lookup name with
        | none => if rest = [] then .vacant dir name else .failed .noEntry
        | some i =>
          match d.node? i with
          | some (.link target) => .link dir target rest
          | _ => advance d intent i rest
    | _ => .failed .notDirectory

inductive Place
  | found (i : Ino)
  | vacant (dir : Ino) (name : String)
  deriving DecidableEq, Repr

def walk (d : Disk) (intent : Intent) (links : Nat) (dir : Ino) (names : List String) :
    Except Errno Place :=
  match d.advance intent dir names with
  | .found i => .ok (.found i)
  | .vacant dir name => .ok (.vacant dir name)
  | .failed e => .error e
  | .link dir target rest =>
    match links with
    | 0 => .error .tooManyLinks
    | links + 1 =>
      if target.isEmpty then .error .noEntry
      else walk d intent links (origin dir target) (Disk.names target ++ rest)

def place (d : Disk) (intent : Intent) (cwd : Ino) (path : String) : Except Errno Place :=
  if path.isEmpty then .error .noEntry
  else if path.utf8ByteSize > pathLimit then .error .nameTooLong
  else d.walk intent 40 (origin cwd path) (names path)

def locate (d : Disk) (cwd : Ino) (path : String) : Except Errno Ino :=
  match d.place .use cwd path with
  | .ok (.found i) => .ok i
  | .ok (.vacant ..) => .error .noEntry
  | .error e => .error e

def isPathText (path : String) : Bool := !path.toList.contains '\x00'

def hasNode (d : Disk) (cwd : Ino) (path : String) : Bool :=
  isPathText path && (d.locate cwd path).isOk

def hasDirectory (d : Disk) (cwd : Ino) (path : String) : Bool :=
  isPathText path && match d.locate cwd path with
    | .ok i => d.isDirectory i
    | .error _ => false

/-! ## Opening files -/

/-- Opens the file at a path for writing. A missing file is created; in overwrite mode an existing
one loses its content. -/
def openForWriting (d : Disk) (cwd : Ino) (path : String) (mode : OpenMode) :
    Except Errno (Ino × Disk) :=
  match d.place .create cwd path with
  | .error e => .error e
  | .ok (.vacant dir name) =>
    if d.isAttached dir then .ok (d.create dir name (.regular [] 0o644)) else .error .noEntry
  | .ok (.found i) =>
    match d.node? i with
    | some (.regular content rights) =>
      if !Right.write.isIn rights then .error .accessDenied
      else match mode with
      | .append => .ok (i, d)
      | .overwrite => .ok (i, if content = [] then d else d.setNode i (.regular [] rights))
    | some (.device (.sealed e)) => .error e
    | some (.device _) => .ok (i, d)
    | _ => .error .isDirectory

def contentAt (d : Disk) (cwd : Ino) (path : String) : Except Errno Bytes :=
  match d.locate cwd path with
  | .error e => .error e
  | .ok i =>
    match d.node? i with
    | some (.regular content mode) =>
      if Right.read.isIn mode then .ok content else .error .accessDenied
    | some (.device (.sealed e)) => .error e
    | some (.device _) => .ok []
    | _ => .error .isDirectory

end CommandShell.Disk
