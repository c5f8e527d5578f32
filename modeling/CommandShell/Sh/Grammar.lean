import CommandShell.Sh.Lexer

/-! # Reading commands -/

namespace CommandShell.Sh

namespace Reader

/-- The checks in front of a command that may stand on a later line. -/
def anywhere : Checks := { newline := true, reserved := true, aliases := true }

def here : Checks := { reserved := true, aliases := true }

def expect (n : Nested) (wanted : Token) : Reader Unit := do
  if (← readToken n) ≠ wanted then unexpected (some wanted)

def expectWith (n : Nested) (checks : Checks) (wanted : Token) : Reader Unit := do
  modify fun s => { s with checks }
  expect n wanted

/-! ## Redirections -/

def readTarget (n : Nested) : Reader Redirection := do
  match (← get).announced? with
  | none =>
    if (← readToken n) ≠ .word then unexpected none
    let s ← get
    return s.redirection s.word
  | some a =>
    let redirection := (← get).redirection
    if (← readTokenWith n { delimiter := true }) ≠ .word then unexpected none
    let s ← get
    let a := { a with delimiter := s.word.unquoted.toList, expands := !s.quoted }
    set { s with announced := s.announced ++ [a], announced? := none }
    match redirection [] with
    | .document d index _ => return .document d index a.expands
    | r => return r

def readRedirections (n : Nested) : Reader (List Redirection) := do
  let found ← loop (fun found => do
    if (← readTokenWith n here) = .redirection then
      return .inl (found.push (← readTarget n))
    else return .inr found) #[]
  again
  return found.toList

/-! ## Simple commands -/

structure Simple where
  assignments : Array Word := #[]
  words : Array Word := #[]
  redirections : Array Redirection := #[]

def readSimple (n : Nested) (command : Reader Node) : Reader Node := do
  let line := (← get).line
  loop (fun (c : Simple) => do
    let t ← readTokenWith n { aliases := c.words.isEmpty }
    match t with
    | .word =>
      let w := (← get).word
      if c.words.isEmpty && w.isAssignment then
        return .inl { c with assignments := c.assignments.push w }
      else return .inl { c with words := c.words.push w }
    | .redirection =>
      return .inl { c with redirections := c.redirections.push (← readTarget n) }
    | _ =>
      if t = .openParen && c.words.size = 1 && c.assignments.isEmpty && c.redirections.isEmpty then
        expect n .closeParen
        let name := (c.words.getD 0 []).bare?.getD ""
        if !isName name || specialUtilities.contains name then fail "Bad function name"
        modify fun s => { s with checks := anywhere }
        let line := (← get).line
        return .inr (.define line name (← command))
      else
        again
        return .inr (.simple line c.assignments.toList c.words.toList c.redirections.toList)) {}

/-! ## Compound commands -/

def readBranch (n : Nested) (list : Extent → Reader Node) : Reader Node := do
  let clauses ← loop (fun (clauses : Array (Node × Node)) => do
    let condition ← list .body
    expect n .thenWord
    let yes ← list .body
    let clauses := clauses.push (condition, yes)
    if (← readToken n) = .elifWord then return .inl clauses else return .inr clauses) #[]
  let last? ← if (← get).token = .elseWord then some <$> list .body
    else do
      again
      pure none
  expect n .fiWord
  let nested := clauses.foldr (fun (condition, yes) no => some (.branch condition yes no)) last?
  return nested.getD default

def readEach (n : Nested) (list : Extent → Reader Node) (line : Nat) : Reader Node := do
  let t ← readToken n
  let s ← get
  let name := s.word.bare?.getD ""
  if t ≠ .word || s.quoted || !isName name then fail "Bad for loop variable"
  let words ← if (← readTokenWith n anywhere) = .inWord then do
      let words ← loop (fun (words : Array Word) => do
        if (← readToken n) = .word then return .inl (words.push (← get).word)
        else return .inr words) #[]
      let t := (← get).token
      if t ≠ .newline && t ≠ .semicolon then unexpected none
      pure words.toList
    else do
      if (← get).token ≠ .semicolon then again
      pure [[.edge, .parameter "@" .value false [], .edge]]
  expectWith n anywhere .doWord
  let body ← list .body
  expect n .doneWord
  return .each line name words body

def readPatterns (n : Nested) : Reader (List Word) := do
  let patterns ← loop (fun (patterns : Array Word) => do
    let patterns := patterns.push (← get).word
    if (← readToken n) = .bar then
      let _ ← readToken n
      return .inl patterns
    else return .inr patterns) #[]
  if (← get).token ≠ .closeParen then unexpected (some .closeParen)
  return patterns.toList

def readSelect (n : Nested) (line : Nat) : Reader Node := do
  expect n .word
  let word := (← get).word
  expectWith n anywhere .inWord
  let atChoice : Checks := { newline := true, reserved := true }
  let _ ← readTokenWith n atChoice
  let choices ← loop (fun (choices : Array Choice) => do
    let t := (← get).token
    if t = .esacWord then return .inr choices
    if t = .openParen then
      let _ ← readToken n
    let patterns ← readPatterns n
    let choices := choices.push (.mk patterns (← n.list .rest))
    let t ← readTokenWith n atChoice
    if t = .esacWord then return .inr choices
    if t ≠ .doubleSemicolon then unexpected (some .doubleSemicolon)
    let _ ← readTokenWith n atChoice
    return .inl choices) #[]
  return .select line word choices.toList

def readCommandWith (n : Nested) (command : Reader Node) : Reader Node := do
  let list (e : Extent) : Reader Node := do return (← n.list e).getD default
  let line := (← get).line
  let withRedirections (body : Node) : Reader Node := do
    match ← readRedirections n with
    | [] => return body
    | rs => return .redirected line body rs
  match ← readToken n with
  | .ifWord => withRedirections (← readBranch n list)
  | .whileWord | .untilWord =>
    let whileTrue := (← get).token = .whileWord
    let condition ← list .body
    expect n .doWord
    let body ← list .body
    expect n .doneWord
    withRedirections (.loop whileTrue condition body)
  | .forWord => withRedirections (← readEach n list line)
  | .caseWord => withRedirections (← readSelect n line)
  | .openParen =>
    let body ← list .body
    expect n .closeParen
    return .subshell line body (← readRedirections n)
  | .openBrace =>
    let body ← list .body
    expect n .closeBrace
    withRedirections body
  | .word | .redirection =>
    again
    readSimple n command
  | _ => unexpected none

/-! ## Lists of commands -/

def readPipeline (n : Nested) (command : Reader Node) : Reader Node := do
  let inverted := (← readToken n) = .not
  if inverted then modify fun s => { s with checks := here } else again
  let first ← command
  let stages ← loop (fun (stages : Array Node) => do
    if (← readToken n) = .bar then
      modify fun s => { s with checks := anywhere }
      return .inl (stages.push (← command))
    else return .inr stages) #[first]
  again
  let body := if stages.size = 1 then first else .pipeline stages.toList false
  return if inverted then .invert body else body

def readAndOr (n : Nested) (command : Reader Node) : Reader Node := do
  let first ← readPipeline n command
  loop (fun left => do
    let t ← readToken n
    if t = .andIf || t = .orIf then
      modify fun s => { s with checks := anywhere }
      let right ← readPipeline n command
      return .inl (if t = .andIf then .both left right else .either left right)
    else
      again
      return .inr left) first

def inBackground : Node → Node
  | .pipeline stages _ => .pipeline stages true
  | .redirected line body rs => .background line body rs
  | body => .background 0 body []

structure Listed where
  commands? : Option Node := none
  /-- A token that ends the list may come next. -/
  mayEnd : Bool

/-- Reads a list of commands. Nothing is read at the end of the text, or of an empty line. -/
def readListWith (n : Nested) (command : Reader Node) (e : Extent) : Reader (Option Node) := do
  let atLine := e = .line
  let ended (commands? : Option Node) : Reader (Listed ⊕ Option Node) := do
    readDocuments n
    again
    modify fun s => { s with token := .endOfFile }
    return .inr commands?
  loop (fun (l : Listed) => do
    let t ← readTokenWith n { newline := !atLine, reserved := true, aliases := true }
    if t = .newline then
      readDocuments n
      return .inr l.commands?
    if t = .endOfFile then
      ended l.commands?
    else
      again
      if !atLine && l.mayEnd && t.endsList then return .inr l.commands?
      let c ← readAndOr n command
      let t ← readToken n
      let c := if t = .ampersand then inBackground c else c
      let l : Listed :=
        { commands? := some (match l.commands? with
            | none => c
            | some before => .sequence before c)
          mayEnd := true }
      match t with
      | .endOfFile => ended l.commands?
      | .newline =>
        again
        return .inl l
      | .ampersand | .semicolon => return .inl l
      | _ =>
        if atLine then unexpected none
        again
        return .inr l.commands?) { mayEnd := e = .rest }

def readCommandAt (n : Nested) : Nat → Reader Node
  | 0 => fail "nested too deeply"
  | depth + 1 => readCommandWith n (readCommandAt n depth)

def nested : Nat → Nested
  | 0 =>
    { parts := fun _ => fail "nested too deeply"
      list := fun _ => fail "nested too deeply"
      token := fail "nested too deeply" }
  | depth + 1 =>
    { parts := fun g => do return (← readGround (nested depth) g).finish
      list := fun e s => readListWith (nested depth) (readCommandAt (nested depth) (depth + 1)) e s
      token := fun s => readToken (nested depth) s }

def depthLimit : Nat := 1000

/-- Reads the next complete command. The value also says whether it was ended by the end of the
text, and whether there was nothing but that. -/
def readCommandLine : Reader (Option Node × Bool) := do
  modify fun s => { s with again := false, checks := {}, announced := [] }
  let c ← (nested depthLimit).list .line
  return (c, (← get).token = .endOfFile)

def readQuotedText : Reader Word := (nested depthLimit).parts ⟨.document, true, true⟩

end Reader

end CommandShell.Sh
