/-! # Numbers in arguments -/

namespace CommandShell.Sh

def isNumberBlank (c : Char) : Bool := c = ' ' || ('\t' ≤ c && c ≤ '\r')

def digitValue? (c : Char) : Option Nat :=
  if c.isDigit then some (c.toNat - '0'.toNat)
  else if 'a' ≤ c && c ≤ 'z' then some (c.toNat - 'a'.toNat + 10)
  else if 'A' ≤ c && c ≤ 'Z' then some (c.toNat - 'A'.toNat + 10)
  else none

def takeDigits (base : Nat) (cs : List Char) : List Char × List Char :=
  let digits := cs.takeWhile fun c => (digitValue? c).any (· < base)
  (digits, cs.drop digits.length)

def ofDigits (base : Nat) (digits : List Char) : Nat :=
  digits.foldl (fun n c => n * base + (digitValue? c).getD 0) 0

/-- Reads a magnitude: hexadecimal after `0x`, octal after `0`, else decimal, or all in one base. -/
def readMagnitude (base? : Option Nat) (cs : List Char) : Option (Nat × List Char) :=
  let inBase (base : Nat) (cs : List Char) : Option (Nat × List Char) :=
    match takeDigits base cs with
    | ([], _) => none
    | (digits, rest) => some (ofDigits base digits, rest)
  let hexadecimal? (cs : List Char) : Option (Nat × List Char) :=
    match cs with
    | '0' :: x :: rest => if x = 'x' || x = 'X' then inBase 16 rest else none
    | _ => none
  match base? with
  | some base => inBase base cs
  | none =>
    match hexadecimal? cs, cs with
    | some found, _ => some found
    | none, '0' :: _ => inBase 8 cs
    | none, _ => inBase 10 cs

def readNumber (base? : Option Nat) (text : List Char) : Option (Int × List Char) :=
  let cs := text.dropWhile isNumberBlank
  match cs with
  | '-' :: cs => (readMagnitude base? cs).map fun (n, rest) => (-(n : Int), rest)
  | '+' :: cs => (readMagnitude base? cs).map fun (n, rest) => (↑n, rest)
  | _ => (readMagnitude base? cs).map fun (n, rest) => (↑n, rest)

def largest : Int := 0x7FFFFFFFFFFFFFFF
def smallest : Int := -0x8000000000000000

/-- The number of a text that is nothing else than one, with blanks around it, and fits. A text
without digits is 0 where a base is not given. -/
def wholeNumber? (base? : Option Nat) (text : String) : Option Int :=
  match readNumber base? text.toList with
  | some (n, rest) =>
    if rest.all isNumberBlank && smallest ≤ n && n ≤ largest then some n else none
  | none =>
    if base?.isNone && text.toList.all isNumberBlank then some 0 else none

def smallNumber? (text : String) : Option Nat :=
  match wholeNumber? (some 10) text with
  | some n => if 0 ≤ n && n < 0x80000000 then some n.toNat else none
  | none => none

def wrapped (n : Int) : Int := Int.bmod n 0x10000000000000000

end CommandShell.Sh
