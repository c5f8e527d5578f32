import CommandShell.Sh.Binary
import CommandShell.Sh.Escape

/-! # Formats

What `printf` writes: a text in which directives are replaced by arguments, and which is used again
as long as there are arguments left. -/

namespace CommandShell.Sh

namespace Format

structure Style where
  left : Bool := false
  zeros : Bool := false
  plus : Bool := false
  blank : Bool := false
  other : Bool := false
  width : Nat := 0
  precision? : Option Nat := none
  deriving Repr

namespace Style

def flag (s : Style) : Char → Style
  | '-' => { s with left := true }
  | '0' => { s with zeros := true }
  | '+' => { s with plus := true }
  | ' ' => { s with blank := true }
  | '#' => { s with other := true }
  | _ => s

def pad (s : Style) (text : String) : String :=
  let gap := String.ofList (List.replicate (s.width - text.length) ' ')
  if s.left then text ++ gap else gap ++ text

def padNumber (s : Style) (zeros : Bool) (lead digits : String) : String :=
  if zeros && s.zeros && !s.left then
    let gap := s.width - lead.length - digits.length
    lead ++ String.ofList (List.replicate gap '0') ++ digits
  else s.pad (lead ++ digits)

def sign (s : Style) (negative : Bool) : String :=
  if negative then "-" else if s.plus then "+" else if s.blank then " " else ""

def integerDigits (s : Style) (digits : String) : String :=
  match s.precision? with
  | some 0 => if digits = "0" then "" else digits
  | some p => String.ofList (List.replicate (p - digits.length) '0') ++ digits
  | none => digits

def signed (s : Style) (n : Int) : String :=
  s.padNumber s.precision?.isNone (s.sign (n < 0)) (s.integerDigits (toString n.natAbs))

def unsigned (s : Style) (base : Nat) (lead : String) (upper : Bool) (n : Nat) : String :=
  let digits := s.integerDigits (String.ofList (Nat.toDigits base n))
  let digits := if upper then digits.toUpper else digits
  let digits := if s.other && base = 8 && !digits.startsWith "0" then "0" ++ digits else digits
  s.padNumber s.precision?.isNone (if s.other && n ≠ 0 then lead else "") digits

def binary (s : Style) (form : Char) (n : Binary) : String :=
  let upper (text : String) : String := if form.isUpper then text.toUpper else text
  match n with
  | .infinite negative => s.pad (upper (s.sign negative ++ "inf"))
  | .undefined negative => s.pad (upper (s.sign negative ++ "nan"))
  | .finite negative mantissa exponent =>
    let (a, b) := Binary.fraction mantissa exponent
    let places := s.precision?.getD 6
    match form.toLower with
    | 'f' => s.padNumber true (s.sign negative) (Binary.positional s.other places a b)
    | 'e' => s.padNumber true (s.sign negative) (upper (Binary.scientific s.other places a b))
    | 'g' => s.padNumber true (s.sign negative) (upper (Binary.general s.other places a b))
    | _ =>
      let text := Binary.hexadecimal s.other s.precision? mantissa exponent
      s.padNumber true (s.sign negative ++ upper "0x") (upper text)

end Style

/-! ## Arguments -/

structure Progress where
  out : String := ""
  arguments : List String
  /-- What is wrong with arguments. -/
  warnings : Array String := #[]
  failed : Bool := false

inductive Ending
  /-- A cut in an argument. -/
  | cut
  | error (message : String)
  deriving DecidableEq, Repr

abbrev Writer (α : Type) := ExceptT Ending (StateM Progress) α

def put (text : String) : Writer Unit := modify fun p => { p with out := p.out ++ text }

def next? : Writer (Option String) := do
  let p ← get
  set { p with arguments := p.arguments.drop 1 }
  return p.arguments.head?

def check (text : String) (read : Bool) (rest : List Char) (outside : Bool) : Writer Unit := do
  let warn (message : String) : Writer Unit :=
    modify fun p =>
      { p with warnings := p.warnings.push (text ++ ": " ++ message), failed := true }
  if !rest.isEmpty then
    warn (if read then "not completely converted" else "expected numeric value")
  else if outside then warn "Numerical result out of range"

def quotedCharacter? (text : String) : Option Nat :=
  match text.toList with
  | c :: rest =>
    if c = '\'' || c = '"' then some ((rest.head?.map Char.toNat).getD 0) else none
  | [] => none

def nextInteger (lowest highest : Int) (fit : Int → Int) : Writer Int := do
  match ← next? with
  | none => return 0
  | some text =>
    match quotedCharacter? text with
    | some n => return n
    | none =>
      let (n, rest, read) := match readNumber none text.toList with
        | some (n, rest) => (n, rest, true)
        | none => (0, text.toList, false)
      check text read rest (n < lowest || highest < n)
      return fit n

def nextSigned : Writer Int := nextInteger smallest largest fun n => max smallest (min largest n)

def nextUnsigned : Writer Nat := do
  let size : Int := 0x10000000000000000
  let n ← nextInteger (1 - size) (size - 1) fun n =>
    if size ≤ n || n ≤ -size then size - 1 else n % size
  return n.toNat

def nextBinary : Writer Binary := do
  let whole (n : Nat) : Binary := (Binary.ofFraction false n 1).1
  match ← next? with
  | none => return whole 0
  | some text =>
    match quotedCharacter? text with
    | some n => return whole n
    | none =>
      match Binary.read? text.toList with
      | some (n, outside, rest) =>
        check text true rest outside
        return n
      | none =>
        check text false text.toList false
        return whole 0

/-! ## Directives -/

/-- An integer of thirty-two bits with the lowest bits of another. -/
def narrowed (n : Int) : Int := Int.bmod n 0x100000000

def convert (s : Style) (written : String) (form : Char) : Writer Unit := do
  match form with
  | 's' =>
    let text := ((← next?).getD "").toList
    put (s.pad (String.ofList (match s.precision? with
      | some p => text.take p
      | none => text)))
  | 'b' =>
    let (text, cut) := Escape.ofText ((← next?).getD "")
    put (s.pad (String.ofList (match s.precision? with
      | some p => text.toList.take p
      | none => text.toList)))
    if cut then throw .cut
  | 'c' =>
    let c := (((← next?).getD "").toList.head?).getD '\x00'
    put (s.pad c.toString)
  | 'd' | 'i' => put (s.signed (← nextSigned))
  | 'u' => put (s.unsigned 10 "" false (← nextUnsigned))
  | 'o' => put (s.unsigned 8 "" false (← nextUnsigned))
  | 'x' => put (s.unsigned 16 "0x" false (← nextUnsigned))
  | 'X' => put (s.unsigned 16 "0X" true (← nextUnsigned))
  | c =>
    if "aAeEfFgG".toList.contains c then put (s.binary c (← nextBinary))
    else throw (.error s!"{written}: invalid directive")

def directive (text : List Char) : Writer (List Char) := do
  let digitsOrStar (cs : List Char) : Writer (Option Int × List Char) := do
    match cs with
    | '*' :: rest => return (some (narrowed (← nextSigned)), rest)
    | _ =>
      let (digits, rest) := takeDigits 10 cs
      return (if digits.isEmpty then none else some (ofDigits 10 digits : Nat), rest)
  let flags := text.takeWhile "#-+ 0".toList.contains
  let s := flags.foldl Style.flag {}
  let (width?, cs) ← digitsOrStar (text.drop flags.length)
  let width := width?.getD 0
  let s := { s with left := s.left || width < 0, width := width.natAbs }
  let (precision?, cs) ← match cs with
    | '.' :: rest => do
      let (precision?, rest) ← digitsOrStar rest
      let precision := precision?.getD 0
      pure (if precision < 0 then none else some precision.toNat, rest)
    | _ => pure (none, cs)
  match cs with
  | [] => throw (.error "missing format character")
  | form :: rest =>
    let written := String.ofList ('%' :: text.take (text.length - rest.length))
    convert { s with precision? } written form
    return rest

def once : Nat → List Char → Writer Unit
  | 0, _ => return
  | _ + 1, [] => return
  | fuel + 1, '\\' :: cs => do
    let (c, rest) := Escape.replace cs
    put c.toString
    once fuel rest
  | fuel + 1, '%' :: '%' :: cs => do
    put "%"
    once fuel cs
  | fuel + 1, '%' :: cs => do
    let rest ← directive cs
    once fuel rest
  | fuel + 1, c :: cs => do
    put c.toString
    once fuel cs

/-- Writes a format until no argument is left, unless it takes none. -/
def all (text : List Char) : Nat → Writer Unit
  | 0 => return
  | fuel + 1 => do
    let before := (← get).arguments.length
    once (text.length + 1) text
    let left := (← get).arguments.length
    if 0 < left && left < before then all text fuel

def write (text : String) (arguments : List String) : Except Ending Unit × Progress :=
  (all text.toList (arguments.length + 1)).run { arguments }

end Format

end CommandShell.Sh
