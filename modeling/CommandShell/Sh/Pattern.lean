import CommandShell.Disk.Walk
import CommandShell.Sh.State

/-! # Patterns

A pattern is a text in which `*`, `?` and brackets match others than themselves, unless a backslash
stands before them. -/

namespace CommandShell.Sh

namespace Pattern

def classes : List (String × (Char → Bool)) :=
  let isGraph (c : Char) : Bool := 0x20 < c.toNat && c.toNat < 0x7F
  [("alnum", Char.isAlphanum), ("alpha", Char.isAlpha), ("digit", Char.isDigit),
   ("lower", Char.isLower), ("upper", Char.isUpper),
   ("blank", fun c => c = ' ' || c = '\t'),
   ("space", fun c => c = ' ' || (9 ≤ c.toNat && c.toNat ≤ 13)),
   ("cntrl", fun c => c.toNat < 0x20 || c.toNat = 0x7F),
   ("print", fun c => c = ' ' || isGraph c), ("graph", isGraph),
   ("punct", fun c => isGraph c && !c.isAlphanum),
   ("xdigit", fun c => c.isDigit || "abcdefABCDEF".toList.contains c)]

def class? (cs : List Char) : Option ((Char → Bool) × List Char) :=
  classes.findSome? fun (name, p) =>
    let written := (":" ++ name ++ ":]").toList
    if written.isPrefixOf cs then some (p, cs.drop written.length) else none

/-- Where a byte stands in a range; the upper half comes first. -/
def rank (c : Char) : Int := if c.toNat < 0x80 then c.toNat else (c.toNat : Int) - 0x100

def named : List Char → Option (Char × List Char)
  | [] => none
  | '\\' :: c :: cs => some (c, cs)
  | c :: cs => some (c, cs)

/-- Whether a character is among those between brackets, and what follows them. Brackets that are
not closed have no members. -/
def bracket (c : Char) : Nat → Bool → Bool → List Char → Option (Bool × List Char)
  | 0, _, _, _ => none
  | fuel + 1, first, found, p =>
    match p with
    | [] => none
    | ']' :: rest =>
      if first then member fuel found ']' rest else some (found, rest)
    | '[' :: rest =>
      match class? rest with
      | some (q, rest) => bracket c fuel false (found || q c) rest
      | none => member fuel found '[' rest
    | _ =>
      match named p with
      | none => none
      | some (low, rest) => member fuel found low rest
where
  /-- Takes a member, or the range that it starts. -/
  member (fuel : Nat) (found : Bool) (low : Char) (rest : List Char) :
      Option (Bool × List Char) :=
    match fuel with
    | 0 => none
    | fuel + 1 =>
      match rest with
      | '-' :: high =>
        if high.head? = some ']' then bracket c fuel false (found || c = low) rest
        else match named high with
          | none => none
          | some (high, rest) =>
            bracket c fuel false (found || (rank low ≤ rank c && rank c ≤ rank high)) rest
      | _ => bracket c fuel false (found || c = low) rest

def anyEnd (p : List Char → Bool) : List Char → Bool
  | [] => p []
  | c :: cs => p (c :: cs) || anyEnd p cs

def matchesFrom : Nat → List Char → List Char → Bool
  | 0, _, _ => false
  | fuel + 1, p, t =>
    let literal (c : Char) (p : List Char) : Bool :=
      match t with
      | [] => false
      | d :: t => c = d && matchesFrom fuel p t
    match p with
    | [] => t.isEmpty
    | '?' :: p => !t.isEmpty && matchesFrom fuel p (t.drop 1)
    | '*' :: p =>
      let p := p.dropWhile (· = '*')
      p.isEmpty || anyEnd (matchesFrom fuel p) t
    | '[' :: p =>
      match t with
      | [] => false
      | c :: t =>
        let inverted := p.head? = some '!'
        match bracket c (2 * p.length + 2) true false (if inverted then p.drop 1 else p) with
        | none => literal '[' p
        | some (found, p) => found ≠ inverted && matchesFrom fuel p t
    | '\\' :: c :: p => literal c p
    | c :: p => literal c p

def accepts (p t : List Char) : Bool := matchesFrom (p.length + 1) p t

def plain : List Char → List Char
  | [] => []
  | '\\' :: c :: cs => c :: plain cs
  | c :: cs => c :: plain cs

def closes : List Char → Bool
  | [] => false
  | '\\' :: c :: cs => closesAfter (c :: cs)
  | c :: cs => closesAfter (c :: cs)
where
  closesAfter : List Char → Bool
    | _ :: ']' :: _ => true
    | _ :: '\\' :: c :: cs => closesAfter (c :: cs)
    | _ :: c :: cs => closesAfter (c :: cs)
    | _ => false

def isOpen : List Char → Bool
  | [] => false
  | '*' :: _ | '?' :: _ => true
  | '[' :: '!' :: cs => closes cs || isOpen ('!' :: cs)
  | '[' :: cs => closes cs || isOpen cs
  | '\\' :: _ :: cs => isOpen cs
  | _ :: cs => isOpen cs

def pieces : List Char → List (List Char)
  | [] => [[]]
  | '/' :: cs | '\\' :: '/' :: cs => [] :: pieces cs
  | '\\' :: c :: cs =>
    match pieces cs with
    | [] => [['\\', c]]
    | piece :: rest => ('\\' :: c :: piece) :: rest
  | c :: cs =>
    match pieces cs with
    | [] => [[c]]
    | piece :: rest => (c :: piece) :: rest

end Pattern

/-! ## Paths -/

def entryAt (d : Disk) (cwd : Ino) (path : String) : Option Ino :=
  let names := separate '/' path
  let above := String.intercalate "/" (names.dropLast ++ [""])
  match if above.isEmpty then .ok cwd else d.locate cwd above with
  | .ok dir => (d.entries dir).lookup (names.getLastD "")
  | .error _ => none

def hasEntry (d : Disk) (cwd : Ino) (path : String) : Bool :=
  d.hasNode cwd path || (entryAt d cwd path).isSome

def expandPieces (d : Disk) (cwd : Ino) (above : String) : List (List Char) → List String
  | [] => []
  | pieces@(piece :: rest) =>
    if !pieces.any Pattern.isOpen then
      let path := above ++ String.intercalate "/" (pieces.map (String.ofList <| Pattern.plain ·))
      if !above.isEmpty && hasEntry d cwd (pathText path) then [path] else []
    else if !Pattern.isOpen piece then
      expandPieces d cwd (above ++ String.ofList (Pattern.plain piece) ++ "/") rest
    else
      let dir? := if above.isEmpty then .ok cwd else d.locate cwd (pathText above)
      match dir? with
      | .error _ => []
      | .ok dir =>
        if !d.isDirectory dir then []
        else
          let names := "." :: ".." :: (d.entries dir).map (encoded ·.1)
          let showsHidden := (Pattern.plain piece).head? = some '.'
          let names := names.filter fun name =>
            (showsHidden || !name.startsWith ".") && Pattern.accepts piece name.toList
          if rest.isEmpty then names.map (above ++ ·)
          else names.flatMap fun name => expandPieces d cwd (above ++ name ++ "/") rest

def expandPattern (d : Disk) (cwd : Ino) (pattern : List Char) : List String :=
  sortTexts (expandPieces d cwd "" (Pattern.pieces pattern))

end CommandShell.Sh
