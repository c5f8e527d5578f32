import CommandShell.Sh.Source

/-! # Reading words and tokens

Within quotes, braces, arithmetic and the texts that follow a redirection the characters of a script
have meanings of their own, which are the rules of the ground on which they stand. -/

namespace CommandShell.Sh

/-! ## Grounds -/

inductive GroundKind
  | plain
  | braces
  | document
  | arithmetic
  deriving DecidableEq, Repr

structure Ground where
  kind : GroundKind := .plain
  /-- The rules of double quotes hold everywhere on it. -/
  doubled : Bool := false
  /-- It is a part of a text that follows a redirection, in which quotes leave no edges. -/
  inDocument : Bool := false
  deriving DecidableEq, Repr

inductive Quotation
  | none
  | single
  | double
  deriving DecidableEq, Repr

structure Draft where
  parts : Array Part := #[]
  /-- The characters at its end, and whether they are quoted. -/
  run : String := ""
  fixed : Bool := false
  /-- Something in it was quoted. -/
  quoted : Bool := false
  quotation : Quotation := .none
  /-- The parentheses that are open. -/
  depth : Nat := 0

namespace Draft

def settle (d : Draft) : Draft :=
  if d.run.isEmpty then d
  else { d with parts := d.parts.push (if d.fixed then .fixed d.run else .text d.run), run := "" }

def add (d : Draft) (fixed : Bool) (c : Char) : Draft :=
  let d := if d.fixed = fixed then d else { d.settle with fixed }
  { d with run := d.run.push c }

def addPart (d : Draft) (p : Part) : Draft :=
  let d := d.settle
  { d with parts := d.parts.push p }

def edge (d : Draft) (g : Ground) : Draft := if g.inDocument then d else d.addPart .edge

def finish (d : Draft) : Word := d.settle.parts.toList

end Draft

inductive Extent
  /-- To the end of its line. -/
  | line
  /-- To the token that ends it, which does not come first. -/
  | body
  /-- To the token that ends it. -/
  | rest
  deriving DecidableEq, Repr

structure Nested where
  parts : Ground → Reader Word
  list : Extent → Reader (Option Node)
  token : Reader Token

namespace Reader

def unexpected {α : Type} (wanted? : Option Token) : Reader α := do
  let found := (← get).token.describe
  match wanted? with
  | some t =>
    let wanted := t.describe
    fail s!"{found} unexpected (expecting {wanted})"
  | none => fail s!"{found} unexpected"

/-! ## Texts that follow a redirection -/

/-- Notes that the text at hand ends where its delimiter stands alone on a line. The tabs at the
start of a line are passed over where they do not count. -/
def meetDelimiter : Reader Unit := do
  match (← get).delimiter? with
  | none => return
  | some (delimiter, stripsTabs) =>
    if stripsTabs then
      loop (fun _ => do
        if (← peek) = some '\t' then
          skip
          return .inl ()
        else return .inr ()) ()
    let left ← loop (fun left => do
      match left, ← peek with
      | c :: cs, some d =>
        if c = d then
          skip
          return .inl cs
        else return .inr left
      | _, _ => return .inr left) delimiter
    match left, ← peek with
    | [], some '\n' =>
      skip
      modify fun s => { s with delimited := true }
    | [], none => modify fun s => { s with delimited := true, line := s.line + 1 }
    | _, _ =>
      if left.length < delimiter.length then
        putBack (delimiter.take (delimiter.length - left.length))

def readPlainDocument : Reader Word := do
  meetDelimiter
  let text ← loop (fun text => do
    match ← next with
    | some c =>
      if c = '\n' then meetDelimiter
      return .inl (text.push c)
    | none => return .inr text) ""
  return [.fixed text]

def readDocuments (n : Nested) : Reader Unit := do
  let announced := (← get).announced
  modify fun s => { s with announced := [] }
  for a in announced do
    modify fun s => { s with delimiter? := some (a.delimiter, a.stripsTabs), delimited := false }
    let text ← if a.expands then do
        join
        meetDelimiter
        n.parts ⟨.document, true, true⟩
      else readPlainDocument
    modify fun s =>
      { s with
        delimiter? := none
        delimited := false
        documents := s.documents.setIfInBounds a.index text }

/-! ## Substitutions -/

/-- Keeps what reading a nested list of commands would change. -/
def shielded {α : Type} (r : Reader α) : Reader α := fun s =>
  match r { s with announced := [], delimiter? := none, checks := {}, again := false } with
  | (.ok a, t) =>
    (.ok a, { t with announced := s.announced, delimiter? := s.delimiter?, again := false })
  | (.error e, t) => (.error e, t)

def inside {α : Type} (text : List Char) (r : Reader α) : Reader α := fun s =>
  let within : Source :=
    { s with
      chars := text, later := [], substitutes := [], line := 1, checks := {}, again := false,
      announced := [], delimiter? := none, delimited := false, shows := false }
  match r within with
  | (.ok a, t) => (.ok a, { s with documents := t.documents, checks := {}, again := false })
  | (.error e, t) => (.error e, t)

/-- Reads the commands after `$(`, with the parenthesis at their end. A text that they announce and
that did not come is empty. -/
def readCommand (n : Nested) : Reader Part := shielded do
  let body ← n.list .rest
  if (← n.token) ≠ .closeParen then unexpected (some .closeParen)
  let s ← get
  inside [] (do
    modify fun t => { t with announced := s.announced }
    readDocuments n)
  return .command body

def readBackquoted (doubled : Bool) : Reader (List Char) := do
  let text ← loop (fun text => do
    match ← nextJoined with
    | none => fail "EOF in backquote substitution"
    | some '`' => return .inr text
    | some '\\' =>
      match ← next with
      | none => return .inl (text.push '\\')
      | some c =>
        if c = '\\' || c = '`' || c = '$' || (doubled && c = '"') then return .inl (text.push c)
        else return .inl (text.push '\\' |>.push c)
    | some c => return .inl (text.push c)) #[]
  return text.toList

def isSpecial (c : Char) : Bool := c.isDigit || "#?$!-*@".toList.contains c

def use? : Char → Option Use
  | '}' => some .value
  | '-' => some .otherwise
  | '+' => some .instead
  | '?' => some .demand
  | '=' => some .assign
  | _ => none

def readBracedName : Reader (String × Use) := do
  match ← peekJoined with
  | none | some '}' => return ("", .refused)
  | some c =>
    if isNameStart c then return (← takeJoined isNameChar, .value)
    else if c.isDigit then return (← takeJoined Char.isDigit, .value)
    else
      skip
      let plain : Reader (String × Use) :=
        return if isSpecial c then (c.toString, .value) else ("", .refused)
      if c ≠ '#' then plain
      else match ← peekJoined with
        | none => plain
        | some d =>
          if isNameStart d then return (← takeJoined isNameChar, .length)
          else if d.isDigit then return (← takeJoined Char.isDigit, .length)
          else
            skip
            if d = '}' || (← peekJoined) ≠ some '}' then
              putBack [d]
              plain
            else return if isSpecial d then (d.toString, .length) else ("", .refused)

/-- Reads what follows the name of a parameter between braces. The value says whether the parameter
ends there. The end of a line that is met instead does not count as one. -/
def readUse : Reader (Use × Bool × Bool) := do
  let orEmpty := (← peekJoined) = some ':'
  if orEmpty then skip
  match ← nextJoined with
  | none => return (.refused, orEmpty, false)
  | some c =>
    if !orEmpty && (c = '%' || c = '#') then
      let longest := (← peekJoined) = some c
      if longest then skip
      return (.trim (c = '%') longest, false, false)
    else match use? c with
      | some u => return (u, orEmpty, u = .value && !orEmpty)
      | none =>
        if c = '\n' then modify fun s => { s with line := s.line - 1 }
        return (.refused, orEmpty, false)

def readBraced (n : Nested) (g : Ground) (doubled : Bool) : Reader Part := do
  let (name, use) ← readBracedName
  let (use, orEmpty, ended) ← if use = .value then readUse else pure (use, false, false)
  if ended then return .parameter name .value false []
  else
    let doubled := doubled && !use matches .trim ..
    let word ← n.parts ⟨.braces, doubled, g.inDocument⟩
    return .parameter name (if use = .length && !word.isEmpty then .refused else use) orEmpty word

def readDollar (n : Nested) (g : Ground) (doubled : Bool) : Reader (Option Part) := do
  if (← get).checks.delimiter then return none
  match ← peekJoined with
  | none => return none
  | some c =>
    if c = '(' then
      skip
      if (← peekJoined) = some '(' then
        skip
        return some (.arithmetic (← n.parts ⟨.arithmetic, true, g.inDocument⟩))
      else return some (← readCommand n)
    else if c = '{' then
      skip
      return some (← readBraced n g doubled)
    else if isNameStart c then
      return some (.parameter (← takeJoined isNameChar) .value false [])
    else if isSpecial c then
      skip
      return some (.parameter c.toString .value false [])
    else return none

/-! ## Words -/

def isWordEnd (c : Char) : Bool := "\n\t ;&|<>()".toList.contains c

def isEscapable (g : Ground) (c : Char) : Bool :=
  c = '\\' || c = '`' || c = '$' || (c = '"' && (g.kind = .braces || !g.inDocument)) ||
    (c = '}' && g.kind = .braces)

def atEnd (g : Ground) (d : Draft) : Reader Draft :=
  if g.kind = .arithmetic then fail "Missing '))'"
  else if !g.inDocument && (g.doubled || d.quotation ≠ .none) then fail "Unterminated quoted string"
  else if g.kind = .braces then fail "Missing '\x7d'"
  else return d

def readPart (n : Nested) (g : Ground) (d : Draft) : Reader (Draft ⊕ Draft) := do
  let doubled := g.doubled || d.quotation = .double
  let take (fixed : Bool) (c : Char) : Reader (Draft ⊕ Draft) := do
    skip
    if c = '\n' && g.inDocument then
      if d.quotation ≠ .single then join
      meetDelimiter
    return .inl (d.add fixed c)
  if d.quotation = .single then
    match ← peek with
    | none => return .inr (← atEnd g d)
    | some '\'' =>
      skip
      return .inl { d.edge g with quoted := true, quotation := .none }
    | some c => take (!g.inDocument) c
  else match ← peekJoined with
    | none => return .inr (← atEnd g d)
    | some '\\' =>
      skip
      match ← next with
      | none => return .inl (d.add true '\\')
      | some c =>
        let d := if doubled && !isEscapable g c then d.add true '\\' else d
        return .inl { d.add true c with quoted := true }
    | some '\'' =>
      if doubled then take true '\''
      else
        skip
        return .inl { d.edge g with quotation := .single }
    | some '"' =>
      if g.kind = .arithmetic || g.kind = .document then take true '"'
      else
        skip
        if d.quotation = .double then
          return .inl { d.edge g with quoted := true, quotation := .none }
        else return .inl { d.edge g with quoted := d.quoted || g.doubled, quotation := .double }
    | some '$' =>
      skip
      match ← readDollar n g doubled with
      | some p => return .inl (d.addPart p)
      | none => return .inl (d.add doubled '$')
    | some '`' =>
      skip
      if (← get).checks.delimiter then return .inl { d.add doubled '`' with quoted := true }
      else
        let text ← readBackquoted doubled
        return .inl (d.addPart (.command (← inside text (n.list .rest))))
    | some c =>
      if c = '}' && g.kind = .braces && d.quotation = .none then
        skip
        return .inr d
      else if g.kind = .plain && d.quotation = .none && isWordEnd c then return .inr d
      else if g.kind = .arithmetic && c = '(' then
        skip
        return .inl { d.add true c with depth := d.depth + 1 }
      else if g.kind = .arithmetic && c = ')' then
        skip
        if 0 < d.depth then return .inl { d.add true c with depth := d.depth - 1 }
        else if (← peekJoined) = some ')' then
          skip
          return .inr d
        else return .inl (d.add true c)
      else take doubled c

def readGround (n : Nested) (g : Ground) : Reader Draft := loop (readPart n g) {}

/-! ## Tokens -/

def readRedirection (digit? : Option Nat) : Reader Unit := do
  let outward := (← nextJoined) = some '>'
  let descriptor := digit?.getD (if outward then 1 else 0)
  let file (o : Opening) : Reader Unit :=
    modify fun s => { s with redirection := .file descriptor o, announced? := none }
  let copy : Reader Unit := do
    skip
    modify fun s =>
      { s with
        announced? := none
        redirection := fun w =>
          match w.bare?.map String.toList with
          | some ['-'] => .close descriptor
          | some [c] =>
            if c.isDigit then .copy descriptor (c.toNat - '0'.toNat) else .computed descriptor w
          | _ => .computed descriptor w }
  let sign? ← peekJoined
  if sign? = some '&' then copy
  else if outward then
    match sign? with
    | some '>' => do skip; file .append
    | some '|' => do skip; file .overwrite
    | _ => file .write
  else
    match sign? with
    | some '>' => do skip; file .readWrite
    | some '<' =>
      skip
      let stripsTabs := (← peekJoined) = some '-'
      if stripsTabs then skip
      modify fun s =>
        let index := s.documents.size
        { s with
          announced? := some ⟨index, [], stripsTabs, false⟩
          documents := s.documents.push []
          redirection := fun _ => .document descriptor index false }
    | _ => file .read

def readWord (n : Nested) : Reader Token := do
  let d ← readGround n {}
  let sign := (← peek) = some '<' || (← peek) = some '>'
  if sign && !d.quoted && d.parts.isEmpty && d.run.length ≤ 1 && d.run.all Char.isDigit then
    readRedirection (d.run.toList.head?.map fun c => c.toNat - '0'.toNat)
    return .redirection
  else
    modify fun s => { s with word := d.finish, quoted := d.quoted }
    return .word

def readOperator (c : Char) (single double : Token) : Reader Token := do
  skip
  if (← peekJoined) = some c then
    skip
    return double
  else return single

def readRaw (n : Nested) : Reader Token := do
  let s ← get
  if s.again then
    set { s with again := false }
    return s.token
  let t ← loop (fun _ => do
    match ← peekJoined with
    | none => return .inr .endOfFile
    | some c =>
      match c with
      | ' ' | '\t' => do skip; return .inl ()
      | '#' =>
        loop (fun _ => do
          match ← peek with
          | none | some '\n' => return .inr ()
          | some _ => do skip; return .inl ()) ()
        return .inl ()
      | '\n' => do skip; return .inr .newline
      | '(' => do skip; return .inr .openParen
      | ')' => do skip; return .inr .closeParen
      | '&' => return .inr (← readOperator c .ampersand .andIf)
      | '|' => return .inr (← readOperator c .bar .orIf)
      | ';' => return .inr (← readOperator c .semicolon .doubleSemicolon)
      | _ => return .inr (← readWord n)) ()
  modify fun s => { s with token := t }
  return t

/-- The alias that a text is, unless it stands in the text of that alias. -/
def alias? (s : Source) (text : String) : Option String :=
  if s.substitutes.any (·.name? = some text) then none else s.aliases.lookup text

def readToken (n : Nested) : Reader Token := do
  let given := (← get).checks
  loop (fun (checks : Checks) => do
    let first ← readRaw n
    let t ← if !checks.newline then pure first
      else loop (fun t => do
        if t = .newline then
          readDocuments n
          modify fun s => { s with checks := {} }
          return .inl (← readRaw n)
        else return .inr t) first
    let s ← get
    let checks :=
      { checks with
        aliases := checks.aliases || s.checks.aliases
        reserved := checks.reserved || s.checks.reserved }
    set { s with checks := {} }
    match if t = .word && !s.quoted then s.word.bare? else none with
    | none => return .inr t
    | some text =>
      match if checks.reserved then Token.reserved.lookup text else none with
      | some t =>
        modify fun s => { s with token := t }
        return .inr t
      | none =>
        match if checks.aliases then alias? s text else none with
        | none => return .inr t
        | some value =>
          let chains := value.toList.getLast?.any fun c => c = ' ' || c = '\t'
          if !value.isEmpty then
            modify fun s =>
              { s with substitutes := ⟨some text, value.toList, chains⟩ :: s.substitutes }
          return .inl checks) given

def readTokenWith (n : Nested) (checks : Checks) : Reader Token := do
  modify fun s => { s with checks }
  readToken n

def again : Reader Unit := modify fun s => { s with again := true }

end Reader

end CommandShell.Sh
