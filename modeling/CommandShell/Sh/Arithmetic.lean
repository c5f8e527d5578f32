import CommandShell.Sh.Variable

/-! # Arithmetic

Expressions over numbers of sixty-four bits with a sign. An expression is worked out while it is
read, so what it does before an error stays done. -/

namespace CommandShell.Sh

namespace Arithmetic

inductive Op
  | mul | div | rem | add | sub | shiftLeft | shiftRight
  | lt | le | gt | ge | eq | ne | bitAnd | bitXor | bitOr
  deriving DecidableEq, Repr

/-- How an operator binds; a smaller rank binds more. -/
def Op.rank : Op → Nat
  | mul | div | rem => 0
  | add | sub => 1
  | shiftLeft | shiftRight => 2
  | lt | le | gt | ge => 3
  | eq | ne => 4
  | bitAnd => 5
  | bitXor => 6
  | bitOr => 7

inductive Token
  | number (n : Int)
  | name (name : String)
  | op (op : Op)
  /-- An assignment, which may work on the value that is there. -/
  | assign (op? : Option Op)
  | andIf
  | orIf
  | not
  | complement
  | question
  | colon
  | openParen
  | closeParen
  | bad
  deriving DecidableEq, Repr

def signs : List (String × Token × Bool) :=
  [("<<", .op .shiftLeft, true), (">>", .op .shiftRight, true), ("<=", .op .le, false),
   (">=", .op .ge, false), ("==", .op .eq, false), ("!=", .op .ne, false), ("&&", .andIf, false),
   ("||", .orIf, false), ("<", .op .lt, false), (">", .op .gt, false), ("=", .assign none, false),
   ("!", .not, false), ("&", .op .bitAnd, true), ("|", .op .bitOr, true),
   ("^", .op .bitXor, true), ("*", .op .mul, true), ("/", .op .div, true), ("%", .op .rem, true),
   ("+", .op .add, true), ("-", .op .sub, true), ("~", .complement, false),
   ("?", .question, false), (":", .colon, false), ("(", .openParen, false),
   (")", .closeParen, false)]

def tokens : Nat → List Char → List Token
  | 0, _ => []
  | _ + 1, [] => []
  | fuel + 1, c :: cs =>
    if c = ' ' || c = '\t' || c = '\n' then tokens fuel cs
    else if c.isDigit then
      match readMagnitude none (c :: cs) with
      | some (n, rest) => .number (min (n : Int) largest) :: tokens fuel rest
      | none => [.bad]
    else if isNameStart c then
      let name := (c :: cs).takeWhile isNameChar
      .name (String.ofList name) :: tokens fuel ((c :: cs).drop name.length)
    else
      match signs.find? fun (sign, _) => sign.toList.isPrefixOf (c :: cs) with
      | none => [.bad]
      | some (sign, t, assigns) =>
        let rest := (c :: cs).drop sign.length
        match t, assigns, rest with
        | .op op, true, '=' :: rest => .assign (some op) :: tokens fuel rest
        | _, _, _ => t :: tokens fuel rest

abbrev Calculation := StateT (List Token) Eval Int

def refuse (text message : String) : Calculation :=
  (Eval.fail s!"arithmetic expression: {message}: \"{text}\"" : Eval Int)

def truth (b : Bool) : Int := if b then 1 else 0

/-- The number of shifts that a value asks for, by its lowest bits. -/
def shiftCount (n : Int) : Nat := (n % 64).toNat

def twoTo (n : Nat) : Int := ((1 <<< n : Nat) : Int)

def unsigned (n : Int) : Nat := (n % 0x10000000000000000).toNat

def apply (text : String) (op : Op) (a b : Int) : Calculation :=
  match op with
  | .mul => return wrapped (a * b)
  | .add => return wrapped (a + b)
  | .sub => return wrapped (a - b)
  | .div | .rem =>
    if b = 0 then refuse text "division by zero"
    else if a = smallest && b = -1 then throw (.killed Signal.arithmetic)
    else return if op = .div then a.tdiv b else a.tmod b
  | .shiftLeft => return wrapped (a * twoTo (shiftCount b))
  | .shiftRight => return a.fdiv (twoTo (shiftCount b))
  | .lt => return truth (a < b)
  | .le => return truth (a ≤ b)
  | .gt => return truth (b < a)
  | .ge => return truth (b ≤ a)
  | .eq => return truth (a = b)
  | .ne => return truth (a ≠ b)
  | .bitAnd => return wrapped (unsigned a &&& unsigned b : Nat)
  | .bitXor => return wrapped (unsigned a ^^^ unsigned b : Nat)
  | .bitOr => return wrapped (unsigned a ||| unsigned b : Nat)

def lookUp (name : String) : Calculation := do
  let value := ((← Eval.shell).value? name).getD ""
  match wholeNumber? none value with
  | some n => return n
  | none => (Eval.fail s!"Illegal number: {value}" : Eval Int)

/-- Reads a value with the signs in front of it. The whole of an expression may stand in
parentheses. What is only read has no value of its own. -/
def primary (text : String) (whole : Bool → Calculation) (quiet : Bool) : Nat → Calculation
  | 0 => refuse text "expecting primary"
  | fuel + 1 => do
    let ts ← get
    set (ts.drop 1)
    match ts with
    | .number n :: _ => return n
    | .name name :: _ => if quiet then return 0 else lookUp name
    | .openParen :: _ =>
      let n ← whole quiet
      if (← get).head? ≠ some .closeParen then refuse text "expecting ')'"
      else
        modify (·.drop 1)
        return n
    | .op .add :: _ => primary text whole quiet fuel
    | .op .sub :: _ => return wrapped (-(← primary text whole quiet fuel))
    | .not :: _ => return truth ((← primary text whole quiet fuel) = 0)
    | .complement :: _ => return -(← primary text whole quiet fuel) - 1
    | _ => refuse text "expecting primary"

def nextOp? : List Token → Option Op
  | .op op :: _ => some op
  | _ => none

def binaryRest (text : String) (value : Calculation) (quiet : Bool) :
    Nat → Int → Op → Nat → Calculation
  | 0, _, _, _ => refuse text "expecting primary"
  | fuel + 1, a, op, rank => do
    let b ← value
    let b ← match nextOp? (← get) with
      | some next =>
        if next.rank < op.rank then
          modify (·.drop 1)
          binaryRest text value quiet fuel b next op.rank
        else pure b
      | none => pure b
    let a ← if quiet then pure b else apply text op a b
    match nextOp? (← get) with
    | some next =>
      if next.rank < rank then
        modify (·.drop 1)
        binaryRest text value quiet fuel a next rank
      else return a
    | none => return a

def turns (text : String) : Nat := 2 * text.length + 2

def binary (text : String) (whole : Bool → Calculation) (quiet : Bool) : Calculation := do
  let value := primary text whole quiet (turns text)
  let a ← value
  match nextOp? (← get) with
  | some op =>
    modify (·.drop 1)
    binaryRest text value quiet (turns text) a op 8
  | none => return a

def conjunction (text : String) (whole : Bool → Calculation) : Nat → Bool → Calculation
  | 0, _ => refuse text "expecting primary"
  | fuel + 1, quiet => do
    let a ← binary text whole quiet
    if (← get).head? = some .andIf then
      modify (·.drop 1)
      let b ← conjunction text whole fuel (quiet || a = 0)
      return truth (a ≠ 0 && b ≠ 0)
    else return a

def disjunction (text : String) (whole : Bool → Calculation) : Nat → Bool → Calculation
  | 0, _ => refuse text "expecting primary"
  | fuel + 1, quiet => do
    let a ← conjunction text whole (turns text) quiet
    if (← get).head? = some .orIf then
      modify (·.drop 1)
      let b ← disjunction text whole fuel (quiet || a ≠ 0)
      return truth (a ≠ 0 || b ≠ 0)
    else return a

def conditional (text : String) (whole : Bool → Calculation) : Nat → Bool → Calculation
  | 0, _ => refuse text "expecting primary"
  | fuel + 1, quiet => do
    let a ← disjunction text whole (turns text) quiet
    if (← get).head? = some .question then
      modify (·.drop 1)
      let b ← whole (quiet || a = 0)
      if (← get).head? ≠ some .colon then refuse text "expecting ':'"
      else
        modify (·.drop 1)
        let c ← conditional text whole fuel (quiet || a ≠ 0)
        return if a ≠ 0 then b else c
    else return a

def expression (text : String) : Nat → Bool → Calculation
  | 0, _ => refuse text "expecting primary"
  | fuel + 1, quiet => do
    match ← get with
    | .name name :: .assign op? :: rest =>
      set rest
      let b ← expression text fuel quiet
      if quiet then return b
      let n ← match op? with
        | none => pure b
        | some op => apply text op (← lookUp name) b
      let assigned : Eval Unit := Eval.assign name (toString n)
      assigned
      return n
    | _ => conditional text (expression text fuel) (turns text) quiet

def evaluate (text : String) : Eval Int := do
  let (n, rest) ← (expression text (turns text) false).run (tokens (text.length + 1) text.toList)
  if rest.isEmpty then return n
  else Eval.fail s!"arithmetic expression: expecting EOF: \"{text}\""

end Arithmetic

end CommandShell.Sh
