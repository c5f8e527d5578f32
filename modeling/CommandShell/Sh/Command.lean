import CommandShell.Text.Utf8

/-! # The language of `sh`

Words and commands of the standard shell language, as they are read. A text stands for bytes, one
character below U+0100 for each. -/

namespace CommandShell.Sh

inductive Use
  /-- Its value as it is. -/
  | value
  | length
  /-- The word in its place, where it is unset. -/
  | otherwise
  /-- The word assigned to it, where it is unset. -/
  | assign
  /-- The word as an error, where it is unset. -/
  | demand
  /-- The word in its place, where it is set. -/
  | instead
  /-- Its value without what a pattern matches at one end. -/
  | trim (atEnd longest : Bool)
  /-- Nothing: it is refused when it comes to be used. -/
  | refused
  deriving DecidableEq, Repr

inductive Opening
  | read
  | readWrite
  /-- Writing from the start, which the option against overwriting may forbid. -/
  | write
  /-- Writing from the start in any case. -/
  | overwrite
  | append
  deriving DecidableEq, Repr

mutual

/-- A stretch of a word. Between two edges the rules of quotes hold. -/
inductive Part
  | text (text : String)
  | fixed (text : String)
  | edge
  | parameter (name : String) (use : Use) (orEmpty : Bool) (word : List Part)
  | command (body : Option Node)
  | arithmetic (expression : List Part)

inductive Redirection
  | file (descriptor : Nat) (opening : Opening) (name : List Part)
  | copy (descriptor : Nat) (source : Nat)
  | close (descriptor : Nat)
  /-- A descriptor that is given by a word. -/
  | computed (descriptor : Nat) (source : List Part)
  /-- A text of the script itself, by its place in the table of such texts. -/
  | document (descriptor : Nat) (index : Nat) (expands : Bool)

inductive Choice
  | mk (patterns : List (List Part)) (body : Option Node)

inductive Node
  | simple (line : Nat) (assignments words : List (List Part)) (redirections : List Redirection)
  | pipeline (stages : List Node) (background : Bool)
  | redirected (line : Nat) (body : Node) (redirections : List Redirection)
  | subshell (line : Nat) (body : Node) (redirections : List Redirection)
  | background (line : Nat) (body : Node) (redirections : List Redirection)
  | both (first second : Node)
  | either (first second : Node)
  | sequence (first second : Node)
  | invert (body : Node)
  | branch (condition yes : Node) (no : Option Node)
  | loop (whileTrue : Bool) (condition body : Node)
  | each (line : Nat) (name : String) (words : List (List Part)) (body : Node)
  | select (line : Nat) (word : List Part) (choices : List Choice)
  | define (line : Nat) (name : String) (body : Node)

end

abbrev Word := List Part

instance : Inhabited Node := ⟨.simple 0 [] [] []⟩

/-! ## Names -/

def isNameStart (c : Char) : Bool := c.isAlpha || c = '_'

def isNameChar (c : Char) : Bool := c.isAlphanum || c = '_'

def isName (text : String) : Bool :=
  match text.toList with
  | [] => false
  | c :: cs => isNameStart c && cs.all isNameChar

def splitAssignment? (text : String) : Option (String × String) :=
  let name := text.toList.takeWhile isNameChar
  match text.toList.drop name.length with
  | '=' :: value =>
    if isName (String.ofList name) then some (String.ofList name, String.ofList value) else none
  | _ => none

def Word.isAssignment (w : Word) : Bool :=
  match w with
  | .text s :: _ => (splitAssignment? s).isSome
  | _ => false

/-- The text of a word in which nothing is quoted and nothing is replaced. -/
def Word.bare? (w : Word) : Option String :=
  match w with
  | [] => some ""
  | [.text s] => some s
  | _ => none

def Word.unquoted (w : Word) : String :=
  String.join (w.map fun
    | .text s | .fixed s => s
    | _ => "")

/-! ## Utilities -/

/-- The utilities whose errors end a script, and which keep what is assigned in front of them. -/
def specialUtilities : List String :=
  [".", ":", "break", "continue", "eval", "exec", "exit", "export", "local", "readonly", "return",
   "set", "shift", "times", "trap", "unset"]

def utilityNames : List String :=
  specialUtilities ++
    ["[", "alias", "bg", "cd", "chdir", "command", "echo", "false", "fg", "getopts", "hash", "jobs",
     "kill", "printf", "pwd", "read", "test", "true", "type", "ulimit", "umask", "unalias", "wait"]

def declaringUtilities : List String := ["alias", "export", "local", "readonly"]

end CommandShell.Sh
