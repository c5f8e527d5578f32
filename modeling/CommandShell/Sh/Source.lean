import CommandShell.Sh.Token

/-! # Reading the text of a script

A script is read one complete command at a time, so what a command does to the file of the script,
to the aliases or to the options can change how the next one is read. -/

namespace CommandShell.Sh

def blockSize : Nat := 8192

structure Substitute where
  /-- The alias, which is not replaced within its own text. Text that is only put back has none. -/
  name? : Option String
  rest : List Char
  /-- The text ends in a blank, so the word after it may be an alias as well. -/
  chains : Bool
  deriving Repr

structure Checks where
  /-- Newlines in front of it are skipped. -/
  newline : Bool := false
  /-- It may be a reserved word. -/
  reserved : Bool := false
  aliases : Bool := false
  /-- It ends a text of the script, so dollar signs and backquotes mean nothing in it. -/
  delimiter : Bool := false
  deriving Repr

/-- A text of the script that is announced by a redirection and follows on the next line. -/
structure Announced where
  index : Nat
  delimiter : List Char
  stripsTabs : Bool
  expands : Bool
  deriving Repr

structure Source where
  /-- The characters at hand, and those that are still in the file. -/
  chars : List Char
  later : List Char := []
  /-- How many characters were taken out of the file. -/
  taken : Nat := 0
  substitutes : List Substitute := []
  line : Nat := 1
  checks : Checks := {}
  /-- The last token, and whether it is to be read again. -/
  token : Token := .newline
  again : Bool := false
  /-- The last word, and whether a part of it was quoted. -/
  word : Word := []
  quoted : Bool := false
  /-- The last redirection. One to a file gets its name afterwards. -/
  redirection : Word → Redirection := fun _ => .close 0
  announced? : Option Announced := none
  announced : List Announced := []
  /-- The texts of the script that redirections refer to. -/
  documents : Array Word := #[]
  /-- The delimiter of the text that is being read, until it is met. -/
  delimiter? : Option (List Char × Bool) := none
  delimited : Bool := false
  aliases : List (String × String) := []
  /-- Lines are shown as they are read, and this is what was shown. -/
  shows : Bool := false
  shown : String := ""
  /-- Nothing of the line at hand was read yet. -/
  fresh : Bool := true

abbrev Reader (α : Type) := ExceptT String (StateM Source) α

@[specialize] def iterate {ε σ α β : Type} (exhausted : ε)
    (step : α → ExceptT ε (StateM σ) (α ⊕ β)) : Nat → α → ExceptT ε (StateM σ) β
  | 0, _ => throw exhausted
  | fuel + 1, a => fun s =>
    match step a s with
    | (.ok (.inl a), s) => iterate exhausted step fuel a s
    | (.ok (.inr b), s) => (.ok b, s)
    | (.error e, s) => (.error e, s)

namespace Reader

def turns : Nat := 0x40000000

def fail {α : Type} (message : String) : Reader α := throw message

@[inline] def loop {α β : Type} (step : α → Reader (α ⊕ β)) (a : α) : Reader β :=
  iterate "" step turns a

/-! ## Characters -/

def refill (s : Source) : Source :=
  if s.chars.isEmpty && !s.later.isEmpty then
    let block := s.later.take blockSize
    { s with
      chars := block.filter (· ≠ '\x00')
      later := s.later.drop blockSize
      taken := s.taken + block.length }
  else s

def reveal (s : Source) : Source :=
  if s.fresh && s.shows && !s.chars.isEmpty then
    let line := s.chars.takeWhile (· ≠ '\n')
    let ending := if line.length < s.chars.length then "\n" else ""
    { s with fresh := false, shown := s.shown ++ String.ofList line ++ ending }
  else { s with fresh := false }

def peek : Reader (Option Char) := fun s =>
  if s.delimited then (.ok none, s)
  else match s.substitutes.find? (!·.rest.isEmpty) with
    | some t => (.ok t.rest.head?, s)
    | none =>
      let s := reveal (refill s)
      (.ok s.chars.head?, s)

def dropSpent (checks : Checks) : List Substitute → List Substitute × Checks
  | [] => ([], checks)
  | t :: rest =>
    if t.rest.isEmpty then
      dropSpent { checks with aliases := checks.aliases || t.chains } rest
    else (t :: rest, checks)

def next : Reader (Option Char) := fun s =>
  if s.delimited then (.ok none, s)
  else
    let (substitutes, checks) := dropSpent s.checks s.substitutes
    let line (c : Char) : Nat := if c = '\n' then s.line + 1 else s.line
    match substitutes with
    | t :: rest =>
      match t.rest with
      | c :: cs =>
        let substitutes := { t with rest := cs } :: rest
        (.ok (some c), { s with checks, substitutes, line := line c })
      | [] => (.ok none, s)
    | [] =>
      let s := reveal (refill { s with checks, substitutes := [] })
      match s.chars with
      | c :: cs => (.ok (some c), { s with chars := cs, line := line c, fresh := c = '\n' })
      | [] => (.ok none, s)

def skip : Reader Unit := do let _ ← next

def putBack (text : List Char) : Reader Unit := modify fun s =>
  { s with
    substitutes := ⟨none, text, false⟩ :: s.substitutes
    line := s.line - text.countP (· = '\n') }

/-- Whether a backslash and the end of a line come next, which count as nothing. -/
def atJoin (s : Source) : Bool :=
  match s.substitutes.find? (!·.rest.isEmpty) with
  | some t =>
    match t.rest with
    | '\\' :: '\n' :: _ => true
    | _ => false
  | none =>
    match (refill s).chars with
    | '\\' :: '\n' :: _ => true
    | ['\\'] => s.later.head? = some '\n'
    | _ => false

def join : Reader Unit :=
  loop (fun _ => do
    if atJoin (← get) then
      skip
      skip
      return .inl ()
    else return .inr ()) ()

def peekJoined : Reader (Option Char) := do join; peek

def nextJoined : Reader (Option Char) := do join; next

def takeJoined (p : Char → Bool) : Reader String :=
  loop (fun text => do
    match ← peekJoined with
    | some c =>
      if p c then
        skip
        return .inl (text.push c)
      else return .inr text
    | none => return .inr text) ""

end Reader

end CommandShell.Sh
