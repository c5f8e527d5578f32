import CommandShell.Proofs.Line.Strip

/-!
# Lines that go on

The words that a reader has behind it do not depend on what comes next, and what comes next does not
depend on them. A line that is cut at a blank is read as its two parts when the reader is outside
quotes and escapes there, and at no other blank; and wherever a line is cut, its first part has the
words of the line, but for the one that the cut goes through.
-/

namespace CommandShell.Line

/-! ## The reader behind more words -/

def Scan.behind (s : Scan) (ws : Array String) : Scan := { s with words := ws ++ s.words }

variable (s : Scan) (ws : Array String)

theorem cut_behind : (s.behind ws).cut = s.cut.behind ws := by
  obtain ⟨vs, w, mode⟩ := s
  simp [Scan.behind, cut_eq]

theorem step_behind (c : Char) : (s.behind ws).step c = (s.step c).behind ws := by
  have hmode : (s.behind ws).mode = s.mode := rfl
  simp only [Scan.step, hmode, cut_behind]
  cases s.mode with
  | bare =>
    simp only
    split
    · rfl
    · split
      · rfl
      · split
        · rfl
        · split <;> rfl
  | escaped => rfl
  | single =>
    simp only
    split <;> rfl
  | double =>
    simp only
    split
    · rfl
    · split <;> rfl
  | doubleEscaped =>
    simp only
    split <;> rfl

theorem scan_behind (cs : List Char) : scan (s.behind ws) cs = (scan s cs).behind ws := by
  induction cs generalizing s with
  | nil => rfl
  | cons c cs ih =>
    have hstep (t : Scan) : scan t (c :: cs) = scan (t.step c) cs := rfl
    rw [hstep, hstep, step_behind, ih]

theorem finish_behind : (s.behind ws).finish = ws.toList ++ s.finish := by
  obtain ⟨vs, w, mode⟩ := s
  simp only [Scan.behind, finish_leftover, Array.toList_append, List.append_assoc]

theorem finish_scan (cs : List Char) :
    (scan s cs).finish = s.words.toList ++ (scan { s with words := #[] } cs).finish := by
  have hs : s = ({ s with words := #[] } : Scan).behind s.words := by
    simp [Scan.behind]
  rw [← finish_behind, ← scan_behind, ← hs]

/-! ## Lines that are cut -/

theorem words_append (a b : String) :
    words (a ++ b) = (scan (scan {} a.toList) b.toList).finish := by
  rw [words, String.toList_append, scan_append]

theorem finish_bare {w : String} (blank : Blank) (cs : List Char) :
    (scan ⟨ws, w, .bare⟩ (blank.1 :: cs)).finish =
      (Scan.mk ws w .bare).finish ++ (scan {} cs).finish := by
  have hblank : scan ⟨ws, w, .bare⟩ (blank.1 :: cs) =
      scan ⟨ws ++ (counted [w]).toArray, "", .bare⟩ cs := by
    rw [← step_blank ws w blank]
    rfl
  rw [hblank, finish_scan, finish_eq ws w (by decide), Array.toList_append]

theorem words_blank (a : String) (blank : Blank) :
    (scan {} a.toList).mode = .bare ↔
      ∀ b, words (a ++ String.singleton blank.1 ++ b) = words a ++ words b := by
  have hline (b : String) : words (a ++ String.singleton blank.1 ++ b) =
      (scan (scan {} a.toList) (blank.1 :: b.toList)).finish := by
    rw [String.append_assoc, words_append, String.toList_append, String.toList_singleton]
    rfl
  simp only [hline]
  rw [words]
  rcases scan {} a.toList with ⟨ws, w, mode⟩
  constructor
  · rintro rfl b
    exact finish_bare ws blank b.toList
  · -- Elsewhere the blank is taken in by the last word, even when the line ends with it.
    refine fun h => Decidable.byContradiction fun hmode => ?_
    have hend := h ""
    have hempty : words "" = [] := rfl
    have hone : blank.1 :: "".toList = [blank].unattach := rfl
    rw [hempty, List.append_nil, hone, finish_blanks ws w hmode, finish_leftover,
      List.append_cancel_left_eq] at hend
    have hsame := counted_inj hend
    rw [String.append_right_inj, String.ofList_inj] at hsame
    exact absorbs_ne hmode blank [] hsame

theorem counted_dropLast (words : List String) (w : String) :
    (words ++ counted [w]).dropLast <+: words := by
  unfold counted
  by_cases hw : w = ""
  · simp [hw, List.dropLast_prefix]
  · simp [hw]

theorem words_prefix (a b : String) :
    (scan {} a.toList).words.toList <+: words (a ++ b) ∧ (words a).dropLast <+: words (a ++ b) := by
  have hread : (scan {} a.toList).words.toList <+: words (a ++ b) := by
    rw [words_append, finish_scan]
    exact List.prefix_append _ _
  refine ⟨hread, List.IsPrefix.trans ?_ hread⟩
  rw [words]
  rcases scan {} a.toList with ⟨ws, w, mode⟩
  rw [finish_leftover]
  exact counted_dropLast ws.toList _

/-- A line that is cut at a blank is read as its two parts exactly when the blank is outside quotes
and not escaped. Wherever a line is cut, the words of its first part, but for the last, are the
first words of the line. -/
theorem words_extend (a : String) :
    (∀ c, isBlank c = true →
      ((scan {} a.toList).mode = .bare ↔
        ∀ b, words (a ++ String.singleton c ++ b) = words a ++ words b)) ∧
      ∀ b, (scan {} a.toList).words.toList <+: words (a ++ b) ∧
        (words a).dropLast <+: words (a ++ b) :=
  ⟨fun c hc => words_blank a ⟨c, hc⟩, words_prefix a⟩

theorem words_extend_slash :
    isBlank '\n' = true ∧ words ("a\\ b'c '" ++ String.singleton '\n' ++ "\"\\\n z") =
      words "a\\ b'c '" ++ words "\"\\\n z" ∧
      words "x \"y\\" = ["x", "y\\"] ∧ words ("x \"y\\" ++ "\"z") = ["x", "y\"z"] ∧
      ["x"] <+: words ("x \"y\\" ++ "\"z") := by
  have hblank : isBlank '\n' = true := by decide
  have hlaw := (words_extend "a\\ b'c '").1 '\n' hblank
  have hprefix := ((words_extend "x \"y\\").2 "\"z").2
  exact ⟨hblank, hlaw.mp (by decide) _, by decide, by decide, hprefix⟩

end CommandShell.Line
