/-! # Escapes in output -/

namespace CommandShell.Sh

namespace Escape

def isOctal (c : Char) : Bool := '0' ≤ c && c ≤ '7'

def octal : Nat → Nat → List Char → Nat × List Char
  | 0, value, cs => (value, cs)
  | _, value, [] => (value, [])
  | digits + 1, value, c :: cs =>
    if isOctal c then octal digits (value * 8 + (c.toNat - '0'.toNat)) cs else (value, c :: cs)

def letters : List (Char × Char) :=
  [('\\', '\\'), ('a', '\x07'), ('b', '\x08'), ('e', '\x1b'), ('f', '\x0c'), ('n', '\n'),
   ('r', '\r'), ('t', '\t'), ('v', '\x0b')]

def replace (cs : List Char) : Char × List Char :=
  match cs with
  | [] => ('\\', [])
  | c :: rest =>
    if isOctal c then
      let (value, rest) := octal 3 0 cs
      (Char.ofNat (value % 256), rest)
    else match letters.lookup c with
      | some d => (d, rest)
      | none => ('\\', cs)

/-- A text with its escapes replaced, in which octal numbers start with an extra zero. The flag says
whether `\c` cut it short. -/
def expand : Nat → List Char → Array Char → Array Char × Bool
  | 0, _, out => (out, false)
  | _ + 1, [], out => (out, false)
  | fuel + 1, '\\' :: cs, out =>
    match cs with
    | 'c' :: _ => (out, true)
    | _ =>
      let cs := match cs with
        | '0' :: d :: rest => if isOctal d then d :: rest else cs
        | _ => cs
      let (c, rest) := replace cs
      expand fuel rest (out.push c)
  | fuel + 1, c :: cs, out => expand fuel cs (out.push c)

def ofText (text : String) : String × Bool :=
  if text.toList.contains '\\' then
    let (out, cut) := expand (text.length + 1) text.toList #[]
    (String.ofList out.toList, cut)
  else (text, false)

end Escape

def echoText (args : List String) : String :=
  let (args, ending) := match args with
    | "-n" :: rest => (rest, "")
    | _ => (args, "\n")
  let rec go (out : String) : List String → String
    | [] => out ++ ending
    | arg :: rest =>
      let (text, cut) := Escape.ofText arg
      let out := out ++ text
      if cut then out
      else if rest.isEmpty then go out rest
      else go (out.push ' ') rest
  go "" args

end CommandShell.Sh
