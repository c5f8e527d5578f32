/-! # UTF-8

Reading bytes as text, one byte at a time. Ill-formed bytes are cut into the longest pieces that
still start a character, so a reader can replace each piece or stop at the first. -/

namespace CommandShell

abbrev Bytes := List UInt8

namespace Utf8

def encode (text : String) : Bytes := text.toList.flatMap String.utf8EncodeChar

inductive Flaw
  | invalidStart
  | invalidContinuation
  | unexpectedEnd
  deriving DecidableEq, Repr

def Flaw.reason : Flaw → String
  | .invalidStart => "invalid start byte"
  | .invalidContinuation => "invalid continuation byte"
  | .unexpectedEnd => "unexpected end of data"

inductive Piece
  | char (c : Char)
  | flawed (flaw : Flaw) (bytes : Bytes)
  deriving DecidableEq, Repr

/-- A character that is begun and not complete: its bytes so far, how many more it needs, and the
range that the next one must fall into. -/
structure Begun where
  bytes : Bytes
  missing : Nat
  low : UInt8
  high : UInt8
  value : Nat
  deriving DecidableEq, Repr

inductive Start
  | single (c : Char)
  | lead (begun : Begun)
  | invalid
  deriving DecidableEq, Repr

def start (b : UInt8) : Start :=
  let lead (missing : Nat) (low high : UInt8) (bits : Nat) : Start :=
    .lead ⟨[b], missing, low, high, b.toNat % bits⟩
  if b < 0x80 then .single (Char.ofNat b.toNat)
  else if b < 0xC2 then .invalid
  else if b < 0xE0 then lead 1 0x80 0xBF 0x20
  else if b = 0xE0 then lead 2 0xA0 0xBF 0x10
  else if b = 0xED then lead 2 0x80 0x9F 0x10
  else if b < 0xF0 then lead 2 0x80 0xBF 0x10
  else if b = 0xF0 then lead 3 0x90 0xBF 0x08
  else if b < 0xF4 then lead 3 0x80 0xBF 0x08
  else if b = 0xF4 then lead 3 0x80 0x8F 0x08
  else .invalid

structure Reader where
  pieces : Array Piece := #[]
  begun : Option Begun := none

def Reader.first (r : Reader) (b : UInt8) : Reader :=
  match start b with
  | .single c => ⟨r.pieces.push (.char c), none⟩
  | .lead begun => ⟨r.pieces, some begun⟩
  | .invalid => ⟨r.pieces.push (.flawed .invalidStart [b]), none⟩

/-- Reads a byte. One that cannot continue the character begun starts the next. -/
def Reader.step (r : Reader) (b : UInt8) : Reader :=
  match r.begun with
  | none => r.first b
  | some p =>
    if p.low ≤ b ∧ b ≤ p.high then
      let value := p.value * 0x40 + b.toNat % 0x40
      if p.missing = 1 then ⟨r.pieces.push (.char (Char.ofNat value)), none⟩
      else ⟨r.pieces, some ⟨p.bytes ++ [b], p.missing - 1, 0x80, 0xBF, value⟩⟩
    else Reader.first ⟨r.pieces.push (.flawed .invalidContinuation p.bytes), none⟩ b

def read (bytes : Bytes) : Reader := bytes.foldl Reader.step {}

def Reader.finish (r : Reader) : List Piece :=
  r.pieces.toList ++ match r.begun with
    | none => []
    | some p => [.flawed .unexpectedEnd p.bytes]

def pieces (bytes : Bytes) : List Piece := (read bytes).finish

def decodeLossy (bytes : Bytes) : List Char :=
  (pieces bytes).map fun
    | .char c => c
    | .flawed .. => '\uFFFD'

structure DecodeError where
  position : Nat
  bytes : Bytes
  flaw : Flaw
  deriving DecidableEq, Repr

def characters (position : Nat) : List Piece → Except DecodeError (List Char)
  | [] => .ok []
  | .flawed flaw bytes :: _ => .error ⟨position, bytes, flaw⟩
  | .char c :: rest => (characters (position + c.utf8Size) rest).map (c :: ·)

def decode? (bytes : Bytes) : Option (List Char) := (characters 0 (pieces bytes)).toOption

/-- The first two bytes of a surrogate. They are flawed, but at the end of a block they wait for the
third like the start of a character. -/
def isCutSurrogate : Bytes → Bool
  | [0xED, b] => 0xA0 ≤ b && b ≤ 0xBF
  | _ => false

def readBlock (bytes : Bytes) : List Piece × Bytes :=
  let cut := bytes.length - 2
  let before := read (bytes.take cut)
  if isCutSurrogate (bytes.drop cut) && before.begun.isNone then
    (before.pieces.toList, bytes.drop cut)
  else
    let r := read bytes
    (r.pieces.toList, match r.begun with
      | none => []
      | some p => p.bytes)

/-- The text of bytes that arrive in blocks of `size`. The position of an error counts from the
block that shows it, or from the bytes that waited for that block. -/
def decodeBlocks (size : Nat) (fuel : Nat) (carried bytes : Bytes) :
    Except DecodeError (List Char) :=
  match fuel with
  | 0 => .ok []
  | fuel + 1 =>
    if bytes.isEmpty then characters 0 (pieces carried)
    else do
      let (pieces, left) := readBlock (carried ++ bytes.take size)
      let here ← characters 0 pieces
      let rest ← decodeBlocks size fuel left (bytes.drop size)
      return here ++ rest

def decodeFile (bytes : Bytes) : Except DecodeError (List Char) :=
  decodeBlocks 8192 (bytes.length + 2) [] bytes

end CommandShell.Utf8
