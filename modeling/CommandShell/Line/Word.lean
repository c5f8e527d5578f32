/-! # The words of a line

A line is read one character at a time. Blanks separate words; outside quotes a backslash takes the
next character as it is; `'…'` holds its text as it is; in `"…"` a backslash takes the next
character as it is, and drops a line feed. A quote left open closes at the end of the line. -/

namespace CommandShell

/-! ## Blank characters -/

/-- A white-space character: the bidirectional separators of Unicode and its space characters. -/
def isBlank (c : Char) : Bool :=
  let n := c.toNat
  (0x09 ≤ n && n ≤ 0x0D) || (0x1C ≤ n && n ≤ 0x20) || n == 0x85 || n == 0xA0 || n == 0x1680 ||
    (0x2000 ≤ n && n ≤ 0x200A) || n == 0x2028 || n == 0x2029 || n == 0x202F || n == 0x205F ||
    n == 0x3000

def stripChars (cs : List Char) : List Char :=
  ((cs.dropWhile isBlank).reverse.dropWhile isBlank).reverse

def strip (line : String) : String := String.ofList (stripChars line.toList)

namespace Line

/-! ## Reading -/

inductive Mode
  | bare
  | escaped
  | single
  | double
  | doubleEscaped
  deriving DecidableEq, Repr

structure Scan where
  words : Array String := #[]
  word : String := ""
  mode : Mode := .bare

namespace Scan

def take (s : Scan) (c : Char) (mode : Mode) : Scan := { s with word := s.word.push c, mode }

def cut (s : Scan) : Scan :=
  if s.word.isEmpty then s else { s with words := s.words.push s.word, word := "" }

def step (s : Scan) (c : Char) : Scan :=
  match s.mode with
  | .bare =>
    if c = '\\' then { s with mode := .escaped }
    else if c = '\'' then { s with mode := .single }
    else if c = '"' then { s with mode := .double }
    else if isBlank c then s.cut
    else s.take c .bare
  | .escaped => s.take c .bare
  | .single => if c = '\'' then { s with mode := .bare } else s.take c .single
  | .double =>
    if c = '\\' then { s with mode := .doubleEscaped }
    else if c = '"' then { s with mode := .bare }
    else s.take c .double
  | .doubleEscaped => if c = '\n' then { s with mode := .double } else s.take c .double

/-- The words at the end of the line. A backslash that ends the line inside `"…"` stands for
itself; one that ends it outside quotes stands for nothing. -/
def finish (s : Scan) : List String :=
  let s := if s.mode = .doubleEscaped then s.take '\\' .double else s
  s.cut.words.toList

end Scan

def scan (s : Scan) (cs : List Char) : Scan := cs.foldl Scan.step s

def words (line : String) : List String := (scan {} line.toList).finish

end Line

end CommandShell
