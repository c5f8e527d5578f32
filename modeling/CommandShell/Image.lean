import CommandShell.Disk.Walk

/-! # What a file runs as

A file is run by what it is: an image that somebody knows how to run, or a script whose first line
names the program that reads it. -/

namespace CommandShell

def headSize : Nat := 256

def isHeadBlank (b : UInt8) : Bool := b = 0x20 || b = 0x09

def isHeadEnd (b : UInt8) : Bool := isHeadBlank b || b = 0x00

/-- What follows `#!` in a script: its first line, or all of the first bytes when the line goes on
beyond them. Then the name that it starts with must not be cut. -/
def scriptHead? (content : Bytes) : Option Bytes :=
  match content with
  | 0x23 :: 0x21 :: rest =>
    let head := rest.take (headSize - 2)
    let line := head.takeWhile fun b => b ≠ 0x0A && b ≠ 0x00
    if head[line.length]? = some 0x0A then some line
    else
      let head := head ++ List.replicate (headSize - 2 - head.length) 0x00
      if (head.dropWhile isHeadBlank).any isHeadEnd then some (head.take (headSize - 3)) else none
  | _ => none

def interpreterOf? (content : Bytes) : Option (String × Option String) :=
  match scriptHead? content with
  | none => none
  | some head =>
    let text (bytes : Bytes) : String := String.ofList (Utf8.decodeLossy bytes)
    let line := (head.reverse.dropWhile isHeadBlank).reverse.dropWhile isHeadBlank
    let name := line.takeWhile (!isHeadEnd ·)
    let rest := line.drop name.length
    if line.isEmpty then none
    else some (text name,
      if rest.head?.any isHeadBlank then
        some (text ((rest.dropWhile isHeadBlank).takeWhile (· ≠ 0x00)))
      else none)

def Disk.runnableAt (d : Disk) (cwd : Ino) (path : String) : Except Errno Bytes :=
  match d.locate cwd path with
  | .error e => .error e
  | .ok i =>
    match d.node? i with
    | some (.regular content mode) =>
      if Right.run.isIn mode then .ok content else .error .accessDenied
    | some (.device (.sealed e)) => .error e
    | _ => .error .accessDenied

def scriptLimit : Nat := 6

/-- The image that is run for the file at a path, and what stands before the arguments that are
given to it where that is not the name of the program. A script is run by its interpreter, which may
be a script again, to a depth. -/
def Disk.imageAt (d : Disk) (known : Bytes → Bool) (cwd : Ino) (depth : Nat) (path : String) :
    Except Errno (Bytes × List String) :=
  match d.runnableAt cwd path with
  | .error e => .error e
  | .ok content =>
    match depth with
    | 0 => .error .tooManyLinks
    | depth + 1 =>
      if known content then .ok (content, [])
      else match interpreterOf? content with
        | none => .error .notExecutable
        | some (interpreter, argument?) =>
          match imageAt d known cwd depth interpreter with
          | .error e => .error e
          | .ok (image, before) =>
            let before := if before.isEmpty then [interpreter] else before
            .ok (image, before ++ argument?.toList ++ [path])

/-! ## Arguments -/

/-- The longest argument that a program can be given, in bytes. -/
def argumentLimit : Nat := 131071

def argumentError? (argv : List String) : Option Errno :=
  if argv.any (·.utf8ByteSize > argumentLimit) then some .argumentsTooLong else none

def Disk.imageUnless (d : Disk) (error? : Option Errno) (known : Bytes → Bool) (cwd : Ino)
    (path : String) : Except Errno (Bytes × List String) :=
  match d.runnableAt cwd path, error? with
  | .ok _, some e => .error e
  | _, _ => d.imageAt known cwd scriptLimit path

/-! ## Texts -/

def textHeadSize : Nat := 128

def isTextless (b : UInt8) : Bool := b < 0x09 || (0x10 ≤ b && b < 0x20 && b ≠ 0x1B) || b = 0x7F

def Disk.isText (d : Disk) (cwd : Ino) (path : String) : Bool :=
  match d.contentAt cwd path with
  | .ok content => !((content.take textHeadSize).takeWhile (· ≠ 0x0A)).any isTextless
  | .error _ => false

end CommandShell
