import CommandShell.Line.Word

/-!
# Layouts

What a line is made of, with no reader in it: words between blanks, a word being a row of
characters that stand for themselves, escaped characters and quoted texts. `Unique.lean` shows that
every line has exactly one layout, `Reading.lean` that the reader finds the words that it says.
-/

namespace CommandShell.Line

/-! ## Segments -/

abbrev Blank := { c : Char // isBlank c = true }

abbrev Quotable := { c : Char // c ≠ '\'' }

def IsPlain (c : Char) : Prop := isBlank c = false ∧ c ≠ '\'' ∧ c ≠ '"' ∧ c ≠ '\\'

instance : DecidablePred IsPlain := fun _ => inferInstanceAs (Decidable (_ ∧ _))

inductive Item
  | raw (c : Char) (plain : c ≠ '"' ∧ c ≠ '\\')
  | escaped (c : Char) (solid : c ≠ '\n')
  /-- A backslash in front of a line feed. -/
  | joined
  deriving DecidableEq

namespace Item

def spell : Item → List Char
  | raw c _ => [c]
  | escaped c _ => ['\\', c]
  | joined => ['\\', '\n']

def meaning : Item → List Char
  | raw c _ | escaped c _ => [c]
  | joined => []

end Item

inductive Segment
  | bare (c : Char) (plain : IsPlain c)
  | escaped (c : Char)
  | single (cs : List Quotable)
  | double (items : List Item)
  deriving DecidableEq

namespace Segment

def spell : Segment → List Char
  | bare c _ => [c]
  | escaped c => ['\\', c]
  | single cs => '\'' :: cs.unattach ++ ['\'']
  | double items => '"' :: items.flatMap Item.spell ++ ['"']

def meaning : Segment → List Char
  | bare c _ | escaped c => [c]
  | single cs => cs.unattach
  | double items => items.flatMap Item.meaning

end Segment

/-- The start of a segment whose end is missing. -/
inductive Fragment
  | backslash
  | single (cs : List Quotable)
  /-- With a lone backslash at its end, or without. -/
  | double (items : List Item) (slash : Bool)
  deriving DecidableEq

namespace Fragment

def spell : Fragment → List Char
  | backslash => ['\\']
  | single cs => '\'' :: cs.unattach
  | double items slash => '"' :: items.flatMap Item.spell ++ if slash then ['\\'] else []

def meaning : Fragment → List Char
  | backslash => []
  | single cs => cs.unattach
  | double items slash => items.flatMap Item.meaning ++ if slash then ['\\'] else []

end Fragment

/-! ## Words and lines -/

structure Word where
  segments : List Segment
  nonempty : segments ≠ []
  deriving DecidableEq

namespace Word

def spell (w : Word) : List Char := w.segments.flatMap Segment.spell

def meaning (w : Word) : String := String.ofList (w.segments.flatMap Segment.meaning)

end Word

inductive Body
  | last (word : Word) (after : List Blank)
  /-- A last word that the end of the line cuts off. -/
  | cut (segments : List Segment) (fragment : Fragment)
  | more (word : Word) (blank : Blank) (blanks : List Blank) (body : Body)
  deriving DecidableEq

namespace Body

def spell : Body → List Char
  | last w after => w.spell ++ after.unattach
  | cut segments f => segments.flatMap Segment.spell ++ f.spell
  | more w b bs body => w.spell ++ (b :: bs).unattach ++ body.spell

/-- The texts that the words stand for, the empty ones too. -/
def meanings : Body → List String
  | last w _ => [w.meaning]
  | cut segments f => [String.ofList (segments.flatMap Segment.meaning ++ f.meaning)]
  | more w _ _ body => w.meaning :: body.meanings

end Body

/-- A line: blanks, and words if there are any. -/
structure Layout where
  before : List Blank
  body? : Option Body
  deriving DecidableEq

def bodyText (b? : Option Body) : List Char := (b?.map Body.spell).getD []

namespace Layout

def spell (l : Layout) : List Char := l.before.unattach ++ bodyText l.body?

def text (l : Layout) : String := String.ofList l.spell

def meanings (l : Layout) : List String := (l.body?.map Body.meanings).getD []

end Layout

end CommandShell.Line
