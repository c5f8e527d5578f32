import CommandShell.Sh.Arithmetic
import CommandShell.Sh.Field

/-! # Expansion

What words stand for: tildes, parameters, the output of commands and arithmetic are replaced, what
is not quoted is divided into fields, and fields that are patterns become the paths they match. -/

namespace CommandShell.Sh

structure Mode where
  /-- It is divided into fields. -/
  divided : Bool := false
  /-- The rules of double quotes hold everywhere in it. -/
  quoted : Bool := false
  /-- It is assigned, so tildes count behind colons too. -/
  assigned : Bool := false
  /-- It stands in the place of a parameter, and its own text is divided. -/
  inPlace : Bool := false

/-! ## Tildes -/

def homes : List (String × String) := [("root", "/root")]

def home? (sh : Shell) (name : String) : Option String :=
  if name.isEmpty then sh.value? "HOME" else homes.lookup name

/-- The stretches of a text in which tildes count at places. At such a place or not, inside a text
that other parts of the word follow or not, and behind the first equals sign or not. -/
def expandTildes (sh : Shell) (m : Mode) (cut : Cut) (followed : Bool) :
    Nat → Bool → Bool → List Char → List Stretch
  | 0, _, _, _ => []
  | fuel + 1, atPlace, assigned, cs =>
    let isEnd (c : Char) : Bool := c = '/' || (m.assigned && c = ':')
    let isPlace (c : Char) : Bool := m.assigned && (c = ':' || (c = '=' && !assigned))
    let name := (cs.drop 1).takeWhile (!isEnd ·)
    let rest := cs.drop (name.length + 1)
    let here? := if atPlace && cs.head? = some '~' && !(followed && rest.isEmpty)
      then home? sh (String.ofList name) else none
    match here? with
    | some home => ⟨home, true, .nowhere⟩ :: expandTildes sh m cut followed fuel false assigned rest
    | none =>
      let plain := cs.takeWhile (!isPlace ·)
      match cs.drop plain.length with
      | [] => [⟨String.ofList plain, m.quoted, cut⟩]
      | c :: rest =>
        ⟨String.ofList (plain ++ [c]), m.quoted, cut⟩ ::
          expandTildes sh m cut followed fuel true (assigned || c = '=') rest

/-! ## Parameters -/

def allParameters (sh : Shell) (m : Mode) (quoted each : Bool) : String × Cut :=
  let first := match sh.value? "IFS" with
    | some s => String.ofList (s.toList.take 1)
    | none => " "
  let nul := "\x00"
  if quoted then
    if each && m.divided then
      (nul.intercalate sh.arguments, if sh.arguments.isEmpty then .nowhere else .parameters)
    else (first.intercalate sh.arguments, .nowhere)
  else if m.divided then
    let between := if (sh.value? "IFS").isSome then nul else " "
    (between.intercalate sh.arguments, .separators)
  else (first.intercalate sh.arguments, .separators)

def parameter? (sh : Shell) (m : Mode) (quoted : Bool) (name : String) : Option (String × Cut) :=
  let cut := if quoted then .nowhere else .separators
  let value? := match name with
    | "$" => some (toString sh.root)
    | "?" => some (toString sh.status)
    | "#" => some (toString sh.arguments.length)
    | "!" => sh.background?.map toString
    | "-" => some (Setting.letters sh.settings)
    | "0" => some sh.name
    | _ =>
      match if name.toList.all Char.isDigit then name.toNat? else none with
      | some n => if n = 0 then some sh.name else sh.arguments[n - 1]?
      | none => sh.value? name
  if name = "@" then some (allParameters sh m quoted true)
  else if name = "*" then some (allParameters sh m quoted false)
  else value?.map (·, cut)

def fixedLength? : Nat → List Char → Option Nat
  | 0, _ => none
  | _ + 1, [] => some 0
  | fuel + 1, c :: p =>
    match c, p with
    | '*', _ => none
    | '\\', _ :: p => (fixedLength? fuel p).map (· + 1)
    | '[', p =>
      match Pattern.bracket 'x' (2 * p.length + 2) true false
          (if p.head? = some '!' then p.drop 1 else p) with
      | some (_, p) => (fixedLength? fuel p).map (· + 1)
      | none => (fixedLength? fuel p).map (· + 1)
    | _, p => (fixedLength? fuel p).map (· + 1)

/-- A value without what a pattern matches at one end of it. The ends that are tried go up to the
first NUL, which stands between parameters. -/
def trim (atEnd longest : Bool) (pattern : List Char) (value : String) : String :=
  let cs := value.toList
  let size := cs.length
  let upToNul (cs : List Char) : List Char := cs.takeWhile (· ≠ '\x00')
  let candidate (i : Nat) : List Char := upToNul (if atEnd then cs.drop i else cs.take i)
  let places : List Nat :=
    match if cs.contains '\x00' then none else fixedLength? (pattern.length + 1) pattern with
    | some n => if size < n then [] else [if atEnd then size - n else n]
    | none =>
      if atEnd = longest then List.range ((upToNul cs).length + 1)
      else (List.range (size + 1)).reverse
  match places.find? fun i => Pattern.accepts pattern (candidate i) with
  | none => value
  | some i => String.ofList (if atEnd then cs.take i else cs.drop i)

/-! ## Words -/

def unsetMessage (name : String) (orEmpty : Bool) : String :=
  let ending := if orEmpty then " or null" else ""
  s!"{name}: parameter not set{ending}"

def captured (text : String) : String :=
  String.ofList ((text.toList.filter (· ≠ '\x00')).reverse.dropWhile (· = '\n')).reverse

mutual

/-- Adds the stretches of the parts of a word. A tilde counts at the start of some. All parameters
between two edges of their own are no field when there are none of them, so those edges go. -/
def expandParts (capture : Option Node → Eval String) (m : Mode) (inQuotes atStart : Bool)
    (out : Array Stretch) : List Part → Eval (Array Stretch)
  | [] => return out
  | .edge :: .parameter "@" .value false [] :: .edge :: ps => do
    if inQuotes then
      let found ← expandPart capture m m.quoted (.parameter "@" .value false [])
      let out := (out.push Stretch.edge ++ found).push Stretch.edge
      expandParts capture m true false out ps
    else
      let found ← expandPart capture m true (.parameter "@" .value false [])
      expandParts capture m false false (out ++ found) ps
  | .edge :: ps => expandParts capture m (!inQuotes) false (out.push Stretch.edge) ps
  | .fixed text :: ps =>
    expandParts capture m inQuotes false (out.push ⟨text, true, .nowhere⟩) ps
  | .text text :: ps => do
    if m.quoted || inQuotes then
      expandParts capture m inQuotes false (out.push ⟨text, true, .nowhere⟩) ps
    else
      let sh ← Eval.shell
      let cut := if m.inPlace then Cut.separators else .nowhere
      let found := expandTildes sh m cut (!ps.isEmpty) (text.length + 1) atStart
        (m.inPlace || !out.isEmpty) text.toList
      expandParts capture m inQuotes false (out ++ found.toArray) ps
  | p :: ps => do
    let found ← expandPart capture m (m.quoted || inQuotes) p
    expandParts capture m inQuotes false (out ++ found) ps

def expandPart (capture : Option Node → Eval String) (m : Mode) (quoted : Bool) :
    Part → Eval (Array Stretch)
  | .text text | .fixed text => return #[⟨text, true, .nowhere⟩]
  | .edge => return #[Stretch.edge]
  | .command body => do
    let text := captured (← capture body)
    return #[⟨text, quoted, if quoted then .nowhere else .separators⟩]
  | .arithmetic expression => do
    let text := Stretch.join (← expandParts capture {} false false #[] expression)
    let n ← Arithmetic.evaluate text
    return #[⟨toString n, quoted, if quoted then .nowhere else .separators⟩]
  | .parameter name use orEmpty word => do
    let sh ← Eval.shell
    let given? := parameter? sh m quoted name
    let value? := given?.filter fun (text, _) => !(orEmpty && text.isEmpty)
    let refuseUnset : Eval Unit := do
      if value?.isNone && sh.isOn .unsetIsError then Eval.fail (unsetMessage name false)
    let shown (given? : Option (String × Cut)) : Array Stretch :=
      match given? with
      | some (text, cut) =>
        if quoted && text.isEmpty && cut = .nowhere then #[] else #[⟨text, quoted, cut⟩]
      | none => #[]
    match use with
    | .refused => Eval.fail "Bad substitution"
    | .value =>
      refuseUnset
      return shown given?
    | .length =>
      refuseUnset
      let length := (given?.map (·.1.length)).getD 0
      return #[⟨toString length, quoted, if quoted then .nowhere else .separators⟩]
    | .otherwise =>
      if value?.isSome then return shown value?
      else expandParts capture { m with quoted, inPlace := true } false true #[] word
    | .instead =>
      if value?.isNone then return #[]
      else expandParts capture { m with quoted, inPlace := true } false true #[] word
    | .assign =>
      if value?.isSome then return shown value?
      else
        let text := Stretch.join (← expandParts capture {} false true #[] word)
        Eval.assignChecked name text
        return shown (parameter? (← Eval.shell) m quoted name)
    | .demand =>
      if value?.isSome then return shown value?
      else if word.isEmpty then Eval.fail (unsetMessage name orEmpty)
      else
        let text := Stretch.join (← expandParts capture {} false true #[] word)
        Eval.fail s!"{name}: {text}"
    | .trim atEnd longest =>
      refuseUnset
      match value? with
      | none => return #[]
      | some (text, cut) =>
        let pattern := Stretch.pattern (← expandParts capture {} false true #[] word)
        return #[⟨trim atEnd longest pattern text, quoted, cut⟩]

end

/-! ## Uses of words -/

def expand (capture : Option Node → Eval String) (m : Mode) (w : Word) : Eval (Array Stretch) :=
  expandParts capture m false true #[] w

def expandField (f : Field) : Eval (List String) := do
  let text := Stretch.join f
  let s ← get
  if s.shell.isOn .noGlobbing || !text.toList.any "*?[".toList.contains then return [text]
  else match expandPattern s.world.disk s.shell.cwd (Stretch.pattern f) with
    | [] => return [text]
    | paths => return paths

def expandFields (capture : Option Node → Eval String) (ws : List Word) :
    Eval (List String) := do
  let mut found : Array String := #[]
  for w in ws do
    let stretches ← expand capture { divided := true } w
    for f in divide (← Eval.shell).separators none stretches do
      found := found ++ (← expandField f).toArray
  return found.toList

def expandText (capture : Option Node → Eval String) (m : Mode) (w : Word) : Eval String := do
  return Stretch.join (← expand capture m w)

end CommandShell.Sh
