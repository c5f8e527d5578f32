import CommandShell.Sh.Number

/-! # Binary floating-point numbers

Numbers with fifty-three bits, read from text and written in decimal and hexadecimal form. All of it
is exact: a number is a fraction, and it is rounded once. -/

namespace CommandShell.Sh

/-- A number `mantissa * 2 ^ exponent`, or one of those that are none. -/
inductive Binary
  | finite (negative : Bool) (mantissa : Nat) (exponent : Int)
  | infinite (negative : Bool)
  | undefined (negative : Bool)
  deriving DecidableEq, Repr

namespace Binary

def bits (n : Nat) : Nat := 1 <<< n

def tenTo (n : Nat) : Nat := Nat.pow 10 n

/-- A quotient rounded to the nearest number, from the middle to the even one. -/
def roundDiv (a b : Nat) : Nat :=
  let q := a / b
  let r := a % b
  if b < 2 * r || (b = 2 * r && q % 2 = 1) then q + 1 else q

def scale (a b : Nat) (exponent : Int) : Nat × Nat :=
  if 0 ≤ exponent then (a * bits exponent.toNat, b) else (a, b * bits (-exponent).toNat)

def lowest : Int := -1074
def highest : Int := 971

/-- The number nearest to a fraction, and whether it is far from it for want of range. -/
def ofFraction (negative : Bool) (a b : Nat) : Binary × Bool :=
  if a = 0 then (finite negative 0 lowest, false)
  else
    let near : Int := (Nat.log2 a : Int) - (Nat.log2 b : Int) - 52
    let (c, d) := scale a b (-near)
    let exponent := max lowest (if c / d < bits 52 then near - 1 else near)
    let (c, d) := scale a b (-exponent)
    let m := roundDiv c d
    let (m, exponent) := if m = bits 53 then (bits 52, exponent + 1) else (m, exponent)
    if highest < exponent then (infinite negative, true)
    else (finite negative m exponent, m < bits 52 && c % d ≠ 0)

/-! ## Reading -/

def takeSign (cs : List Char) : Bool × List Char :=
  match cs with
  | '-' :: cs => (true, cs)
  | '+' :: cs => (false, cs)
  | _ => (false, cs)

def takePoint? (base : Nat) (cs : List Char) : Option (List Char × List Char × List Char) :=
  let (whole, rest) := takeDigits base cs
  let (part, rest) := match rest with
    | '.' :: behind => if whole.isEmpty && (takeDigits base behind).1.isEmpty then ([], rest)
        else takeDigits base behind
    | _ => ([], rest)
  if whole.isEmpty && part.isEmpty then none else some (whole, part, rest)

def takeExponent (lower upper : Char) (cs : List Char) : Int × List Char :=
  match cs with
  | c :: rest =>
    if c = lower || c = upper then
      let (negative, rest) := takeSign rest
      let (digits, rest) := takeDigits 10 rest
      let n : Int := min (ofDigits 10 digits) 100000
      if digits.isEmpty then (0, cs) else (if negative then -n else n, rest)
    else (0, cs)
  | [] => (0, cs)

def readDigits? (negative : Bool) (cs : List Char) : Option (Binary × Bool × List Char) :=
  let hexadecimal? := match cs with
    | '0' :: x :: rest => if x = 'x' || x = 'X' then takePoint? 16 rest else none
    | _ => none
  match hexadecimal? with
  | some (whole, part, rest) =>
    let (e, rest) := takeExponent 'p' 'P' rest
    let (a, b) := scale (ofDigits 16 (whole ++ part)) 1 (e - 4 * part.length)
    let (n, outside) := ofFraction negative a b
    some (n, outside, rest)
  | none =>
    (takePoint? 10 cs).map fun (whole, part, rest) =>
      let (e, rest) := takeExponent 'e' 'E' rest
      let digits := ofDigits 10 (whole ++ part)
      let e := max (-5000 - (whole.length : Int)) (min 5000 (e - part.length))
      let (a, b) := if 0 ≤ e then (digits * tenTo e.toNat, 1) else (digits, tenTo (-e).toNat)
      let (n, outside) := ofFraction negative a b
      (n, outside, rest)

def read? (text : List Char) : Option (Binary × Bool × List Char) :=
  let (negative, cs) := takeSign (text.dropWhile isNumberBlank)
  let begins (word : String) : Bool := (cs.take word.length).map Char.toLower = word.toList
  if begins "infinity" then some (infinite negative, false, cs.drop 8)
  else if begins "inf" then some (infinite negative, false, cs.drop 3)
  else if begins "nan" then
    let rest := cs.drop 3
    let rest := match rest with
      | '(' :: inside =>
        let name := inside.takeWhile fun c => c.isAlphanum || c = '_'
        match inside.drop name.length with
        | ')' :: rest => rest
        | _ => rest
      | _ => rest
    some (undefined negative, false, rest)
  else readDigits? negative cs

/-! ## Writing -/

def digits (count n : Nat) : String :=
  let text := toString n
  String.ofList (List.replicate (count - text.length) '0') ++ text

def pointed (point : Bool) (places : Nat) (digits : String) : String :=
  let cs := digits.toList
  let whole := cs.take (cs.length - places)
  let part := cs.drop (cs.length - places)
  String.ofList (whole ++ if part.isEmpty && !point then [] else '.' :: part)

def exponentText (count : Nat) (e : Int) : String :=
  (if e < 0 then "-" else "+") ++ digits count e.natAbs

def positional (point : Bool) (places a b : Nat) : String :=
  pointed point places (digits (places + 1) (roundDiv (a * tenTo places) b))

/-- The digits of a fraction and the power of ten that the first of them counts. -/
def significant (places a b : Nat) : Nat × Int :=
  if a = 0 then (0, 0)
  else
    let near : Int := ((toString a).length : Int) - ((toString b).length : Int)
    let isBelow (k : Int) : Bool :=
      if 0 ≤ k then a < b * tenTo k.toNat else a * tenTo (-k).toNat < b
    let k := if isBelow near then near - 1 else near
    let e : Int := (places : Int) - k
    let n := if 0 ≤ e then roundDiv (a * tenTo e.toNat) b else roundDiv a (b * tenTo (-e).toNat)
    if n = tenTo (places + 1) then (tenTo places, k + 1) else (n, k)

def scientific (point : Bool) (places a b : Nat) : String :=
  let (n, k) := significant places a b
  pointed point places (digits (places + 1) n) ++ "e" ++ exponentText 2 k

def withoutZeros (text : String) : String :=
  let cs := text.toList.reverse
  if cs.contains '.' then
    let cs := cs.dropWhile (· = '0')
    String.ofList (if cs.head? = some '.' then cs.drop 1 else cs).reverse
  else text

def general (point : Bool) (count a b : Nat) : String :=
  let count := max count 1
  let (n, k) := significant (count - 1) a b
  if -4 ≤ k && k < count then
    let places := (count - 1 - k).toNat
    let text := positional point places a b
    if point then text else withoutZeros text
  else
    let text := pointed point (count - 1) (digits count n)
    (if point then text else withoutZeros text) ++ "e" ++ exponentText 2 k

def hexadecimal (point : Bool) (places? : Option Nat) (mantissa : Nat) (exponent : Int) : String :=
  let hex (n : Nat) : List Char := Nat.toDigits 16 n
  let e : Int := if mantissa = 0 then 0 else exponent + 52
  let mantissa := match places? with
    | some p => if p < 13 then roundDiv mantissa (bits (4 * (13 - p))) else mantissa
    | none => mantissa
  let kept := match places? with
    | some p => min p 13
    | none => 13
  let cs := hex mantissa
  let cs := List.replicate (kept + 1 - cs.length) '0' ++ cs
  let whole := cs.take (cs.length - kept)
  let part := cs.drop (cs.length - kept)
  let part := match places? with
    | some p => part ++ List.replicate (p - 13) '0'
    | none => (part.reverse.dropWhile (· = '0')).reverse
  let body := String.ofList (whole ++ if part.isEmpty && !point then [] else '.' :: part)
  body ++ "p" ++ exponentText 1 e

def fraction (mantissa : Nat) (exponent : Int) : Nat × Nat := scale mantissa 1 exponent

end Binary

end CommandShell.Sh
