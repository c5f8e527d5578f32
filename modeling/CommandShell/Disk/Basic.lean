import CommandShell.Errno
import CommandShell.Text.Utf8

/-! # Disks

A disk is a table of nodes. Directories name nodes by their place in the table, so a file keeps its
identity under every path that leads to it, and a directory that is removed can still be stood
in. -/

namespace CommandShell

/-- The place of a node in the table. -/
abbrev Ino := Nat

inductive Device
  /-- Takes everything and keeps nothing. -/
  | null
  /-- Takes no byte: every write fails with the error. -/
  | failing (e : Errno)
  /-- Fails with the error when it is to be opened or run. -/
  | sealed (e : Errno)
  deriving DecidableEq, Repr

inductive Node
  | directory (parent : Ino) (entries : List (String × Ino))
  | regular (content : Bytes) (mode : Nat)
  | link (target : String)
  | device (device : Device)
  deriving DecidableEq, Repr

structure Disk where
  nodes : Array Node
  deriving Repr

inductive Right
  | read
  | write
  | run
  deriving DecidableEq, Repr

def Right.bit : Right → Nat
  | read => 0o400
  | write => 0o200
  | run => 0o100

def Right.isIn (r : Right) (mode : Nat) : Bool := mode &&& r.bit ≠ 0

namespace Disk

def root : Ino := 0

def empty : Disk := ⟨#[.directory root []]⟩

def node? (d : Disk) (i : Ino) : Option Node := d.nodes[i]?

def setNode (d : Disk) (i : Ino) (n : Node) : Disk := ⟨d.nodes.setIfInBounds i n⟩

def isDirectory (d : Disk) (i : Ino) : Bool :=
  match d.node? i with
  | some (.directory ..) => true
  | _ => false

def entries (d : Disk) (i : Ino) : List (String × Ino) :=
  match d.node? i with
  | some (.directory _ entries) => entries
  | _ => []

def isAttached (d : Disk) (i : Ino) : Bool :=
  i = root || match d.node? i with
    | some (.directory parent _) => (d.entries parent).any (·.2 = i)
    | _ => false

def create (d : Disk) (dir : Ino) (name : String) (n : Node) : Ino × Disk :=
  let i := d.nodes.size
  match d.node? dir with
  | some (.directory parent entries) =>
    (i, ⟨(d.setNode dir (.directory parent (entries ++ [(name, i)]))).nodes.push n⟩)
  | _ => (i, ⟨d.nodes.push n⟩)

/-- The bytes of `content` with those from `offset` on replaced, and zeros in a gap before them. -/
def overlay (content : Bytes) (offset : Nat) (bytes : Bytes) : Bytes :=
  content.take offset ++ List.replicate (offset - content.length) 0 ++ bytes ++
    content.drop (offset + bytes.length)

def writeAt (d : Disk) (i : Ino) (offset : Nat) (bytes : Bytes) : Except Errno Disk :=
  match d.node? i with
  | some (.regular content mode) => .ok (d.setNode i (.regular (overlay content offset bytes) mode))
  | some (.device .null) => .ok d
  | some (.device (.failing e)) | some (.device (.sealed e)) =>
    if bytes.isEmpty then .ok d else .error e
  | _ => .error .isDirectory

def size (d : Disk) (i : Ino) : Nat :=
  match d.node? i with
  | some (.regular content _) => content.length
  | _ => 0

def climb (d : Disk) : Nat → Ino → List String → Option (List String)
  | 0, _, _ => none
  | fuel + 1, i, below =>
    if i = root then some below
    else match d.node? i with
      | some (.directory parent _) =>
        match (d.entries parent).find? (·.2 = i) with
        | some (name, _) => climb d fuel parent (name :: below)
        | none => none
      | _ => none

/-- The path of a directory, unless it was removed. -/
def pathOf? (d : Disk) (i : Ino) : Option String :=
  (d.climb (d.nodes.size + 1) i []).map fun names => "/" ++ String.intercalate "/" names

end Disk

end CommandShell
