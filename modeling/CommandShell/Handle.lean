import CommandShell.Disk.Walk

/-! # Handles

An open file, with two stores in front of it. Text waits in the first until there is a chunk of it
or a flush asks for it; from there it goes to a block, and from the block to the file. A write that
the file refuses leaves the block as it is, so the next flush tries again. -/

namespace CommandShell

structure Handle where
  node : Ino
  mode : OpenMode
  /-- Where the next write goes when the handle does not append. -/
  offset : Nat := 0
  text : Bytes := []
  block : Bytes := []
  deriving DecidableEq, Repr

namespace Handle

def chunkSize : Nat := 8192

def blockSize : Nat := 4096

/-- A step on a handle and the disk, which both keep what it did before it failed. -/
abbrev Step := ExceptT Errno (StateM (Handle × Disk)) Unit

def emit (bytes : Bytes) : Step := fun (h, d) =>
  let offset := match h.mode with
    | .append => d.size h.node
    | .overwrite => h.offset
  match d.writeAt h.node offset bytes with
  | .ok d => (.ok (), { h with offset := offset + bytes.length }, d)
  | .error e => (.error e, h, d)

def flushBlock : Step := fun (h, d) =>
  if h.block.isEmpty then (.ok (), h, d)
  else match emit h.block (h, d) with
    | (.ok (), h, d) => (.ok (), { h with block := [] }, d)
    | (.error e, h, d) => (.error e, h, d)

def fill (bytes : Bytes) : Step := fun (h, d) =>
  if h.block.length + bytes.length ≤ blockSize ∧ bytes.length < blockSize then
    (.ok (), { h with block := h.block ++ bytes }, d)
  else match flushBlock (h, d) with
    | (.ok (), h, d) =>
      if bytes.length > blockSize then emit bytes (h, d)
      else (.ok (), { h with block := bytes }, d)
    | (.error e, h, d) => (.error e, h, d)

def handOn : Step := fun (h, d) =>
  if h.text.isEmpty then (.ok (), h, d) else fill h.text ({ h with text := [] }, d)

/-- Takes a text. What waits is handed on first when the two together are more than a chunk, and a
whole chunk does not wait. -/
def write (bytes : Bytes) : Step := do
  if (← get).1.text.length + bytes.length > chunkSize then handOn
  modify fun (h, d) => ({ h with text := h.text ++ bytes }, d)
  if (← get).1.text.length ≥ chunkSize then handOn

def flush : Step := do
  handOn
  flushBlock

end Handle

def Handle.openAt (d : Disk) (cwd : Ino) (path : String) (mode : OpenMode) :
    Except Errno (Handle × Disk) :=
  (d.openForWriting cwd path mode).map fun (i, d) => ({ node := i, mode }, d)

end CommandShell
