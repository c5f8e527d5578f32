import CommandShell.Disk.Walk

/-! # Building and taking apart a tree of files -/

namespace CommandShell.Disk

inductive Entry
  | directory
  | link (target : String)
  | file (content : Bytes) (mode : Nat)
  deriving Repr

def makeDirectories (d : Disk) (dir : Ino) : List String → Except Errno (Ino × Disk)
  | [] => .ok (dir, d)
  | name :: rest =>
    match d.walk .use 40 dir [name] with
    | .error e => .error e
    | .ok (.found i) => makeDirectories d i rest
    | .ok (.vacant parent name) =>
      let (i, d) := d.create parent name (.directory parent [])
      makeDirectories d i rest

def install (d : Disk) (dir : Ino) (path : String) (entry : Entry) : Except Errno Disk := do
  let names := (names path).filter (· ≠ "")
  match entry with
  | .directory => return (← d.makeDirectories dir names).2
  | .link target =>
    let (parent, d) ← d.makeDirectories dir names.dropLast
    return (d.create parent (names.getLastD "") (.link target)).2
  | .file content mode =>
    let (parent, d) ← d.makeDirectories dir names.dropLast
    let (i, d) ← d.openForWriting parent (names.getLastD "") .overwrite
    return d.setNode i (.regular content mode)

def below (d : Disk) : Nat → Ino → List Ino
  | 0, i => [i]
  | depth + 1, i => i :: (d.entries i).flatMap fun (_, j) => below d depth j

def clear (d : Disk) (i : Ino) : Disk :=
  (d.below d.nodes.size i).foldl (fun d j =>
    match d.node? j with
    | some (.directory parent _) => d.setNode j (.directory parent [])
    | _ => d) d

def remove (d : Disk) (dir : Ino) (path : String) : Except Errno Disk := do
  let names := (names path).filter (· ≠ "")
  let name := names.getLastD ""
  match d.walk .use 40 dir names.dropLast with
  | .error e => .error e
  | .ok (.vacant ..) => .error .noEntry
  | .ok (.found parent) =>
    match d.node? parent with
    | some (.directory above entries) =>
      match entries.lookup name with
      | none => .error .noEntry
      | some i =>
        return (d.clear i).setNode parent (.directory above (entries.filter (·.1 ≠ name)))
    | _ => .error .notDirectory

/-- The regular files below a directory, with their paths from there; links are not followed. -/
def files (d : Disk) : Nat → Ino → String → List (String × Bytes)
  | 0, _, _ => []
  | depth + 1, i, above =>
    (d.entries i).flatMap fun (name, j) =>
      match d.node? j with
      | some (.regular content _) => [(above ++ name, content)]
      | some (.directory ..) => files d depth j (above ++ name ++ "/")
      | _ => []

end CommandShell.Disk
