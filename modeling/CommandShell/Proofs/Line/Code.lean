import CommandShell.Line.Word

/-!
# Codes

Pieces of text that a reader can tell apart from the left. A text is cut into pieces until it
comes to a place where no piece starts, and there is one way to do that.
-/

namespace CommandShell.Line

/-- No piece begins another, and every text either begins with a piece or is a stop. -/
structure Code (α : Type) where
  spell : α → List Char
  Stops : List Char → Prop
  spell_ne_nil : ∀ a, spell a ≠ []
  inj : ∀ {a b r s}, spell a ++ r = spell b ++ s → a = b ∧ r = s
  not_stops : ∀ a r, ¬ Stops (spell a ++ r)
  cover : ∀ t, Stops t ∨ ∃ a r, t = spell a ++ r

namespace Code

variable {α : Type} (c : Code α)

def text (as : List α) : List Char := as.flatMap c.spell

@[simp] theorem text_nil : c.text [] = [] := rfl

@[simp] theorem text_cons (a : α) (as : List α) : c.text (a :: as) = c.spell a ++ c.text as := rfl

theorem exists_cut (t : List Char) : ∃ as r, c.Stops r ∧ t = c.text as ++ r := by
  rcases c.cover t with h | ⟨a, t', ht⟩
  · exact ⟨[], t, h, rfl⟩
  · have hlt : t'.length < t.length := by
      have := List.length_pos_iff.mpr (c.spell_ne_nil a)
      rw [ht, List.length_append]
      omega
    obtain ⟨as, r, hr, ht'⟩ := exists_cut t'
    refine ⟨a :: as, r, hr, ?_⟩
    rw [ht, ht', text_cons, List.append_assoc]
termination_by t.length

theorem cut_unique {as bs : List α} {r s : List Char} (hr : c.Stops r) (hs : c.Stops s)
    (h : c.text as ++ r = c.text bs ++ s) : as = bs ∧ r = s := by
  induction as generalizing bs with
  | nil =>
    cases bs with
    | nil => exact ⟨rfl, h⟩
    | cons b bs =>
      simp only [text_nil, List.nil_append, text_cons, List.append_assoc] at h
      exact absurd (h ▸ hr) (c.not_stops _ _)
  | cons a as ih =>
    cases bs with
    | nil =>
      simp only [text_nil, List.nil_append, text_cons, List.append_assoc] at h
      exact absurd (h ▸ hs) (c.not_stops _ _)
    | cons b bs =>
      simp only [text_cons, List.append_assoc] at h
      obtain ⟨rfl, hrest⟩ := c.inj h
      obtain ⟨rfl, hstop⟩ := ih hrest
      exact ⟨rfl, hstop⟩

/-! ## Letters -/

def letters (p : Char → Prop) [DecidablePred p] : Code { c : Char // p c } where
  spell c := [c.1]
  Stops t := ∀ c r, t = c :: r → ¬ p c
  spell_ne_nil := by simp
  inj := by
    rintro ⟨a, ha⟩ ⟨b, hb⟩ r s h
    simpa using h
  not_stops := by
    rintro ⟨a, ha⟩ r h
    exact h a r rfl ha
  cover t := by
    cases t with
    | nil => left; simp
    | cons c r =>
      by_cases h : p c
      · right; exact ⟨⟨c, h⟩, r, rfl⟩
      · left
        rintro _ _ ⟨⟩
        exact h

@[simp] theorem letters_text (p : Char → Prop) [DecidablePred p] (cs : List { c : Char // p c }) :
    (letters p).text cs = cs.unattach := by
  induction cs with
  | nil => rfl
  | cons c cs ih => rw [text_cons, ih, List.unattach_cons]; rfl

end Code

end CommandShell.Line
