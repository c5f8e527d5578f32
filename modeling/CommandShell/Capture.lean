import CommandShell.Line.Redirection
import CommandShell.Program
import CommandShell.Sink

/-! # Programs and their output

What a program writes is caught while it runs, and brought to its targets when it has ended. -/

namespace CommandShell

/-! ## Line endings -/

namespace Newline

/-- `unify`, with a carriage return just before the text when the flag is set. -/
def unifyAfter (returned : Bool) : List Char → List Char
  | [] => []
  | c :: cs =>
    if c = '\n' && returned then unifyAfter false cs
    else if c = '\r' then '\n' :: unifyAfter true cs
    else c :: unifyAfter false cs

def unify (cs : List Char) : List Char := unifyAfter false cs

def lines : List Char → List (List Char)
  | [] => []
  | c :: cs =>
    if c = '\n' then [] :: lines cs
    else match lines cs with
      | [] => [[c]]
      | line :: rest => (c :: line) :: rest

end Newline

/-! ## Captured output -/

def capturedText (bytes : Bytes) : String := String.ofList (Newline.unify (Utf8.decodeLossy bytes))

namespace Machine

/-- Writes a text into a file of its own opening. What could not be written while the file was open
is tried once more when it is let go. -/
def writeFile (m : Machine) (path text : String) (mode : OpenMode) : Except Fault Unit × Machine :=
  if !Disk.isPathText path then (.error .nullByte, m)
  else match Handle.openAt m.disk m.cwd path mode with
    | .error e => (.error (.system e (some path)), m)
    | .ok (h, disk) =>
      match Handle.write (Utf8.encode text) (h, disk) with
      | (written, h, disk) =>
        match Handle.flush (h, disk) with
        | (flushed, _, disk) =>
          ((do flushed; written).mapError (Fault.system · none), { m with disk })

end Machine

namespace Run

def route (s : Stream) (t : Target) (text : String) : Run Unit := do
  match t.path? with
  | none => modify fun m => if text.isEmpty then m else m.print s text
  | some path =>
    let (r, m) := (← get).writeFile path text t.mode
    set m
    match r with
    | .ok () => return
    | .error (.system e _) => complain s!"Error writing to {path}: {e.text}\n"
    | .error f => fail f

def program (name : String) (args : List String) (out err : Target) (path? : Option String) :
    Run Int := do
  let (found?, m) := (← get).lookUp name path?
  set m
  match found? with
  | none => fail (.notFound name)
  | some file =>
    match m.start file (name :: args) with
    | .error f => fail f
    | .ok (_, finished) =>
      modify fun m => { m with disk := finished.disk }
      note (.ended file finished.status)
      route .out out (capturedText finished.out)
      route .err err (capturedText finished.err)
      return finished.status

end Run

end CommandShell
