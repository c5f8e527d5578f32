import CommandShell.Session.Script

/-!
# Lines and what ends them

The lines of a text are the same whatever ends each of them, as long as no carriage return comes to
stand in front of a line feed that was to end an empty line.
-/

namespace CommandShell

namespace Newline

inductive Ending
  | missing
  | feed
  | carriage
  | both
  deriving DecidableEq, Repr

def Ending.chars : Ending → List Char
  | missing => []
  | feed => ['\n']
  | carriage => ['\r']
  | both => ['\r', '\n']

structure Row where
  line : List Char
  ending : Ending

namespace Row

def chars (row : Row) : List Char := row.line ++ row.ending.chars

def unified (row : Row) : List Char := row.line ++ if row.ending = .missing then [] else ['\n']

def IsPlain (row : Row) : Prop := ∀ c ∈ row.line, c ≠ '\n' ∧ c ≠ '\r'

/-- What follows a carriage return is read with it. -/
def IsFeed (row : Row) : Prop := row.line = [] ∧ row.ending = .feed

end Row

def joined (rows : List Row) : List Char := rows.flatMap Row.chars

/-- Every line but the last is ended, and no carriage return is taken for half of an ending. -/
def Separates : List Row → Prop
  | [] | [_] => True
  | row :: next :: rest =>
    row.ending ≠ .missing ∧ (row.ending = .carriage → ¬ next.IsFeed) ∧ Separates (next :: rest)

theorem separates_rest {row : Row} {rest : List Row} (h : Separates (row :: rest)) :
    Separates rest := by
  cases rest with
  | nil => trivial
  | cons next rest => exact h.2.2

theorem unifyAfter_plain {cs : List Char} (h : ∀ c ∈ cs, c ≠ '\n' ∧ c ≠ '\r') (returned : Bool)
    (ds : List Char) :
    unifyAfter returned (cs ++ ds) = cs ++ unifyAfter (returned && cs.isEmpty) ds := by
  induction cs generalizing returned with
  | nil => simp
  | cons c cs ih =>
    obtain ⟨hfeed, hreturn⟩ := h c List.mem_cons_self
    have hrest := ih (fun d hd => h d (List.mem_cons_of_mem c hd)) false
    rw [List.cons_append, unifyAfter]
    simp only [hfeed, hreturn, decide_false, Bool.false_and, Bool.false_eq_true, if_false, hrest,
      List.isEmpty_cons, Bool.and_false, List.cons_append]

theorem unifyAfter_feed (ds : List Char) :
    unifyAfter false ('\n' :: ds) = '\n' :: unifyAfter false ds := by
  simp [unifyAfter]

theorem unifyAfter_carriage (returned : Bool) (ds : List Char) :
    unifyAfter returned ('\r' :: ds) = '\n' :: unifyAfter true ds := by
  simp [unifyAfter]

theorem unifyAfter_both (returned : Bool) (ds : List Char) :
    unifyAfter returned ('\r' :: '\n' :: ds) = '\n' :: unifyAfter false ds := by
  simp [unifyAfter]

theorem unifyAfter_joined {rows : List Row} (hp : ∀ row ∈ rows, row.IsPlain) (hs : Separates rows)
    {returned : Bool} (hr : returned = true → ∀ row ∈ rows.head?, ¬ row.IsFeed) :
    unifyAfter returned (joined rows) = rows.flatMap Row.unified := by
  induction rows generalizing returned with
  | nil => rfl
  | cons row rest ih =>
    have hplain : row.IsPlain := hp row List.mem_cons_self
    have hp' : ∀ row ∈ rest, row.IsPlain := fun row h => hp row (List.mem_cons_of_mem _ h)
    have hs' := separates_rest hs
    have hfirst : joined (row :: rest) = row.line ++ (row.ending.chars ++ joined rest) := by
      rw [joined, List.flatMap_cons, Row.chars, List.append_assoc]
      rfl
    rw [hfirst, unifyAfter_plain hplain, List.flatMap_cons, Row.unified, List.append_assoc]
    congr 1
    cases he : row.ending with
    | missing =>
      cases rest with
      | nil => rfl
      | cons next rest => exact absurd he hs.1
    | feed =>
      have hreturned : (returned && row.line.isEmpty) = false := by
        cases returned with
        | false => rfl
        | true => simpa [Row.IsFeed, he] using hr rfl row rfl
      rw [hreturned]
      exact (unifyAfter_feed _).trans (congrArg _ (ih hp' hs' (by simp)))
    | carriage =>
      have hnext : ∀ next ∈ rest.head?, ¬ next.IsFeed := by
        cases rest with
        | nil => simp
        | cons next rest =>
          rintro _ ⟨⟩
          exact hs.2.1 he
      exact (unifyAfter_carriage _ _).trans (congrArg _ (ih hp' hs' fun _ => hnext))
    | both => exact (unifyAfter_both _ _).trans (congrArg _ (ih hp' hs' (by simp)))

theorem lines_plain {cs : List Char} (h : ∀ c ∈ cs, c ≠ '\n') (hne : cs ≠ []) :
    lines cs = [cs] := by
  induction cs with
  | nil => exact absurd rfl hne
  | cons c cs ih =>
    rw [lines, if_neg (h c List.mem_cons_self)]
    cases cs with
    | nil => rfl
    | cons d ds => rw [ih (fun e he => h e (List.mem_cons_of_mem c he)) (List.cons_ne_nil d ds)]

theorem lines_ended {cs : List Char} (h : ∀ c ∈ cs, c ≠ '\n') (ds : List Char) :
    lines (cs ++ '\n' :: ds) = cs :: lines ds := by
  induction cs with
  | nil => rfl
  | cons c cs ih =>
    rw [List.cons_append, lines, if_neg (h c List.mem_cons_self),
      ih fun d hd => h d (List.mem_cons_of_mem c hd)]

/-- The lines of rows are read back. A last line with nothing in it and nothing after it is not
there at all. -/
theorem lines_joined {rows : List Row} (hp : ∀ row ∈ rows, row.IsPlain) (hs : Separates rows) :
    lines (unify (joined rows)) = rows.map Row.line ∨
      lines (unify (joined rows)) ++ [[]] = rows.map Row.line := by
  rw [unify, unifyAfter_joined hp hs (by simp)]
  induction rows with
  | nil => exact Or.inl rfl
  | cons row rest ih =>
    have hplain : ∀ c ∈ row.line, c ≠ '\n' := fun c hc => (hp row List.mem_cons_self c hc).1
    rw [List.flatMap_cons, Row.unified, List.map_cons]
    by_cases he : row.ending = .missing
    · cases rest with
      | cons next rest => exact absurd he hs.1
      | nil =>
        rw [if_pos he, List.append_nil, List.flatMap_nil, List.append_nil]
        by_cases hline : row.line = []
        · rw [hline]
          exact Or.inr rfl
        · exact Or.inl (lines_plain hplain hline)
    · rw [if_neg he, List.append_assoc, List.singleton_append, lines_ended hplain, List.cons_append]
      exact (ih (fun row h => hp row (List.mem_cons_of_mem _ h)) (separates_rest hs)).imp
        (congrArg _) (congrArg _)

/-! ## The rows of a text -/

/-- The text is divided into the rows. -/
structure Divides (rows : List Row) (text : List Char) : Prop where
  plain : ∀ row ∈ rows, row.IsPlain
  separated : Separates rows
  joins : joined rows = text

section Divides

variable {row : Row} {rows rest : List Row} {text : List Char}

theorem divides_nil : Divides [] [] := ⟨by simp, trivial, rfl⟩

theorem divides_feed (h : Divides rows text) : Divides (⟨[], .feed⟩ :: rows) ('\n' :: text) := by
  refine ⟨?_, ?_, congrArg _ h.joins⟩
  · simpa [Row.IsPlain] using h.plain
  · cases rows with
    | nil => trivial
    | cons next rest => exact ⟨by simp, by simp, h.separated⟩

theorem divides_carriage (h : Divides rows text) (hnext : ∀ next ∈ rows.head?, ¬ next.IsFeed) :
    Divides (⟨[], .carriage⟩ :: rows) ('\r' :: text) := by
  refine ⟨?_, ?_, congrArg _ h.joins⟩
  · simpa [Row.IsPlain] using h.plain
  · cases rows with
    | nil => trivial
    | cons next rest => exact ⟨by simp, fun _ => hnext next rfl, h.separated⟩

theorem divides_both (h : Divides (row :: rest) text) (hfeed : row.IsFeed) :
    Divides (⟨[], .both⟩ :: rest) ('\r' :: text) := by
  obtain ⟨line, ending⟩ := row
  obtain ⟨rfl, rfl⟩ := hfeed
  refine ⟨?_, ?_, congrArg _ h.joins⟩
  · have hplain := (List.forall_mem_cons.mp h.plain).2
    simpa [Row.IsPlain] using hplain
  · cases rest with
    | nil => trivial
    | cons next rest => exact ⟨by simp, by simp, h.separated.2.2⟩

theorem divides_last {c : Char} (hc : c ≠ '\n' ∧ c ≠ '\r') : Divides [⟨[c], .missing⟩] [c] :=
  ⟨by simpa [Row.IsPlain] using hc, trivial, rfl⟩

theorem divides_char {c : Char} (hc : c ≠ '\n' ∧ c ≠ '\r') (h : Divides (row :: rest) text) :
    Divides (⟨c :: row.line, row.ending⟩ :: rest) (c :: text) := by
  refine ⟨?_, ?_, congrArg _ h.joins⟩
  · have hplain := List.forall_mem_cons.mp h.plain
    exact List.forall_mem_cons.mpr ⟨List.forall_mem_cons.mpr ⟨hc, hplain.1⟩, hplain.2⟩
  · have hs := h.separated
    cases rest with
    | nil => trivial
    | cons next rest => exact hs

end Divides

theorem exists_divides (text : List Char) : ∃ rows, Divides rows text := by
  -- From the right, so the line feed behind a carriage return is a row by then.
  induction text with
  | nil => exact ⟨[], divides_nil⟩
  | cons c text ih =>
    obtain ⟨rows, h⟩ := ih
    by_cases hfeed : c = '\n'
    · exact ⟨_, hfeed ▸ divides_feed h⟩
    by_cases hreturn : c = '\r'
    · subst hreturn
      by_cases hnext : ∀ next ∈ rows.head?, ¬ next.IsFeed
      · exact ⟨_, divides_carriage h hnext⟩
      · cases rows with
        | nil => simp at hnext
        | cons row rest => exact ⟨_, divides_both h (by simpa using hnext)⟩
    · cases rows with
      | nil =>
        obtain rfl := h.joins
        exact ⟨_, divides_last ⟨hfeed, hreturn⟩⟩
      | cons row rest => exact ⟨_, divides_char ⟨hfeed, hreturn⟩ h⟩

end Newline

/-! ## Lines with their numbers -/

def numbered (lines : List (List Char)) : List (Nat × String) :=
  (lines.map stripChars).zipIdx 1
    |>.filter (fun (line, _) => line ≠ [] && line.head? ≠ some '#')
    |>.map fun (line, number) => (number, String.ofList line)

theorem scriptLines_eq (content : List Char) :
    scriptLines content = numbered (Newline.lines (Newline.unify content)) := rfl

theorem numbered_blank (lines : List (List Char)) : numbered (lines ++ [[]]) = numbered lines := by
  have hblank : stripChars [] = [] := rfl
  simp [numbered, List.zipIdx_append, hblank]

theorem scriptLines_joined {rows : List Newline.Row} (hp : ∀ row ∈ rows, row.IsPlain)
    (hs : Newline.Separates rows) :
    scriptLines (Newline.joined rows) = numbered (rows.map Newline.Row.line) := by
  rw [scriptLines_eq]
  rcases Newline.lines_joined hp hs with h | h
  · rw [h]
  · rw [← h, numbered_blank]

def IsSkipped (line : List Char) : Prop :=
  strip (String.ofList line) = "" ∨ (strip (String.ofList line)).toList.head? = some '#'

/-- The lines that are to run, numbered from `n` with those that are not. -/
def numberedFrom (n : Nat) (lines : List (List Char)) : List (Nat × String) :=
  (lines.map stripChars).zipIdx n
    |>.filter (fun (line, _) => line ≠ [] && line.head? ≠ some '#')
    |>.map fun (line, number) => (number, String.ofList line)

theorem numbered_eq (lines : List (List Char)) : numbered lines = numberedFrom 1 lines := rfl

theorem strip_ofList (line : List Char) :
    strip (String.ofList line) = String.ofList (stripChars line) := by
  rw [strip, String.toList_ofList]

theorem isSkipped_iff {line : List Char} :
    IsSkipped line ↔ stripChars line = [] ∨ (stripChars line).head? = some '#' := by
  unfold IsSkipped
  rw [strip_ofList, String.toList_ofList, String.ofList_eq_empty_iff]

theorem numberedFrom_skipped {line : List Char} (h : IsSkipped line) (n : Nat)
    (rest : List (List Char)) : numberedFrom n (line :: rest) = numberedFrom (n + 1) rest := by
  have hout : (stripChars line ≠ [] && (stripChars line).head? ≠ some '#') = false := by
    rcases isSkipped_iff.mp h with hs | hs <;> simp [hs]
  simp only [numberedFrom, List.map_cons, List.zipIdx_cons, List.filter_cons, hout,
    Bool.false_eq_true, if_false]

theorem numberedFrom_run {line : List Char} (h : ¬ IsSkipped line) (n : Nat)
    (rest : List (List Char)) :
    numberedFrom n (line :: rest) =
      (n, strip (String.ofList line)) :: numberedFrom (n + 1) rest := by
  rw [isSkipped_iff, not_or] at h
  have hin : (stripChars line ≠ [] && (stripChars line).head? ≠ some '#') = true := by
    simp [h.1, h.2]
  simp only [numberedFrom, List.map_cons, List.zipIdx_cons, List.filter_cons, hin, if_true,
    strip_ofList]

end CommandShell
