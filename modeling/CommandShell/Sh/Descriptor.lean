import CommandShell.Disk.Walk
import CommandShell.Sh.State

/-! # Descriptors

Reading and writing through the descriptors of a process, and pointing them to other places. -/

namespace CommandShell.Sh

/-- More than a pipe can hold before its writer gives up. -/
def pipeLimit : Nat := 0x400000

def badDescriptor : Errno := ⟨9⟩

namespace State

def channel? (s : State) (descriptor : Nat) : Option (Nat × Channel) := do
  let i ← s.shell.descriptors.lookup descriptor
  let c ← s.world.channels[i]?
  return (i, c)

def setChannel (s : State) (i : Nat) (c : Channel) : State :=
  { s with world := { s.world with channels := s.world.channels.setIfInBounds i c } }

end State

namespace Eval

/-! ## Writing -/

def writeTo (i : Nat) (c : Channel) (text : String) : Eval (Except Errno Unit) := fun s =>
  match c with
  | .nothing => (.ok (.ok ()), s)
  | .caught .out => (.ok (.ok ()), { s with world := { s.world with out := text :: s.world.out } })
  | .caught .err => (.ok (.ok ()), { s with world := { s.world with err := text :: s.world.err } })
  | .pipe p true =>
    let pipe := s.world.pipes.getD p {}
    if pipe.content.size - pipe.taken > pipeLimit then (.error (.killed Signal.pipe), s)
    else
      let pipes := s.world.pipes.modify p fun pipe =>
        { pipe with content := text.foldl Array.push pipe.content }
      (.ok (.ok ()), { s with world := { s.world with pipes } })
  | .file node offset reads true appends =>
    let bytes := toBytes text
    let offset := if appends then s.world.disk.size node else offset
    match s.world.disk.writeAt node offset bytes with
    | .ok disk =>
      let s := s.setChannel i (.file node (offset + bytes.length) reads true appends)
      (.ok (.ok ()), { s with world := { s.world with disk } })
    | .error e => (.ok (.error e), s)
  | _ => (.ok (.error badDescriptor), s)

def write (descriptor : Nat) (text : String) : Eval (Except Errno Unit) := do
  if text.isEmpty then return .ok ()
  match (← get).channel? descriptor with
  | some (i, c) => writeTo i c text
  | none => return .error badDescriptor

/-- Writes a text to the error output, whether that takes it or not. -/
def tell (text : String) : Eval Unit := do
  let _ ← write 2 text

def warn (message : String) : Eval Unit := do
  let sh ← shell
  let utility := match sh.command? with
    | some name => name ++ ": "
    | none => ""
  tell s!"{sh.name}: {sh.line}: {utility}{message}\n"

def print (text : String) : Eval Unit := setShell fun sh => { sh with buffer := sh.buffer ++ text }

def flush : Eval (Except Errno Unit) := do
  let text := (← shell).buffer
  if text.isEmpty then return .ok ()
  setShell fun sh => { sh with buffer := "" }
  write 1 text

def stopWith {α : Type} (how : Stop) (status : Nat) (message : String) : Eval α := do
  setStatus status
  warn message
  let _ ← flush
  throw how

def fail {α : Type} (message : String) : Eval α := stopWith .error 2 message

def refuseText {α : Type} (message : String) : Eval α := do
  setShell fun sh => { sh with line := sh.readingLine }
  fail s!"Syntax error: {message}"

/-! ## Reading -/

def rest (descriptor : Nat) : Eval (Except Errno (List Char)) := do
  let s ← get
  match s.channel? descriptor with
  | some (_, .nothing) => return .ok []
  | some (_, .file node offset true _ _) =>
    match s.world.disk.node? node with
    | some (.regular content _) =>
      return .ok ((content.drop offset).map fun b => Char.ofNat b.toNat)
    | some (.device _) => return .ok []
    | _ => return .error .isDirectory
  | some (_, .pipe p false) =>
    let pipe := s.world.pipes.getD p {}
    return .ok (pipe.content.toList.drop pipe.taken)
  | _ => return .error badDescriptor

def advance (descriptor count : Nat) : Eval Unit := modify fun s =>
  match s.channel? descriptor with
  | some (i, .file node offset reads writes appends) =>
    s.setChannel i (.file node (offset + count) reads writes appends)
  | some (_, .pipe p false) =>
    let pipes := s.world.pipes.modify p fun pipe => { pipe with taken := pipe.taken + count }
    { s with world := { s.world with pipes } }
  | _ => s

def lineFrom (content : Array Char) (i : Nat) : List Char :=
  match h : content[i]? with
  | some '\n' => ['\n']
  | some c => c :: lineFrom content (i + 1)
  | none => []
termination_by content.size - i
decreasing_by
  have := (Array.getElem?_eq_some_iff.mp h).1
  omega

def firstLine : List UInt8 → List Char
  | [] => []
  | b :: bs => if b = 0x0A then ['\n'] else Char.ofNat b.toNat :: firstLine bs

def readLine (descriptor : Nat) : Eval (Except Errno (List Char)) := do
  let s ← get
  let line ← match s.channel? descriptor with
    | some (_, .file node offset true _ _) =>
      match s.world.disk.node? node with
      | some (.regular content _) => pure (.ok (firstLine (content.drop offset)))
      | some (.device _) => pure (.ok [])
      | _ => pure (.error Errno.isDirectory)
    | some (_, .pipe p false) =>
      let pipe := s.world.pipes.getD p {}
      pure (.ok (lineFrom pipe.content pipe.taken))
    | some (_, .nothing) => pure (.ok [])
    | _ => pure (.error badDescriptor)
  match line with
  | .ok cs => advance descriptor cs.length
  | .error _ => pure ()
  return line

/-! ## Opening -/

def addChannel (c : Channel) : Eval Nat := do
  let i := (← world).channels.size
  setWorld fun w => { w with channels := w.channels.push c }
  return i

def point (descriptor channel : Nat) : Eval Unit := setShell fun sh =>
  { sh with
    descriptors := (descriptor, channel) :: sh.descriptors.filter (·.1 ≠ descriptor) }

def close (descriptor : Nat) : Eval Unit := setShell fun sh =>
  { sh with descriptors := sh.descriptors.filter (·.1 ≠ descriptor) }

def addPipe (content : String) : Eval (Nat × Nat) := do
  let p := (← world).pipes.size
  setWorld fun w => { w with pipes := w.pipes.push { content := content.toList.toArray } }
  return (← addChannel (.pipe p false), ← addChannel (.pipe p true))

def openingError (missing : String) (e : Errno) : String :=
  if e = .noEntry || e = .notDirectory then missing else e.text

def readError? (d : Disk) (i : Ino) : Option Errno :=
  match d.node? i with
  | some (.regular _ mode) => if Right.read.isIn mode then none else some .accessDenied
  | some (.device (.sealed e)) => some e
  | _ => none

def newMode (mask : Nat) : Nat := 0o666 - (0o666 &&& mask)

def openFile (opening : Opening) (path : String) : Eval Nat := do
  let s ← get
  let d := s.world.disk
  let cwd := s.shell.cwd
  let found? := (d.locate cwd (pathText path)).toOption
  let refuse (e : Errno) : Eval Nat :=
    if opening = .read then
      let reason := openingError "No such file" e
      fail s!"cannot open {path}: {reason}"
    else
      let reason := openingError "Directory nonexistent" e
      fail s!"cannot create {path}: {reason}"
  let created (mode : OpenMode) (reads appends : Bool) : Eval Nat :=
    match d.openForWriting cwd (pathText path) mode with
    | .error e => refuse e
    | .ok (node, disk) => do
      let disk := if found?.isSome then disk
        else disk.setNode node (.regular [] (newMode s.shell.mask))
      setWorld fun w => { w with disk }
      addChannel (.file node 0 reads true appends)
  match opening with
  | .read =>
    match d.locate cwd (pathText path) with
    | .error e => refuse e
    | .ok node =>
      match readError? d node with
      | none => addChannel (.file node 0 true false false)
      | some e => refuse e
  | .readWrite =>
    match found?.bind (readError? d) with
    | none => created .append true false
    | some e => refuse e
  | .append => created .append false true
  | .overwrite => created .overwrite false false
  | .write =>
    let isRegular := (found?.bind d.node?).any (· matches .regular ..)
    if s.shell.settings.contains .noClobber && isRegular then refuse ⟨17⟩
    else created .overwrite false false

end Eval

end CommandShell.Sh
