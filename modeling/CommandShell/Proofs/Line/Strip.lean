import CommandShell.Proofs.Line.Reading

/-!
# Stripping a line before it is read

Blanks in front of a line separate nothing. Blanks behind it do so only where the reader is out of
quotes and escapes; else they belong to the last word, and a line that is stripped has other words.
-/

namespace CommandShell

/-! ## The parts of a line -/

theorem blanks_unattach {cs : List Char} (h : ∀ c ∈ cs, isBlank c = true) :
    ∃ bs : List Line.Blank, cs = bs.unattach :=
  ⟨cs.attachWith _ h, by simp⟩

theorem dropWhile_head {p : Char → Bool} {cs : List Char} {c : Char}
    (h : (cs.dropWhile p).head? = some c) : p c = false := by
  have hnot := List.head?_dropWhile_not p cs
  rw [h] at hnot
  simpa using hnot

theorem strip_parts (cs : List Char) : ∃ before after : List Line.Blank,
    cs = before.unattach ++ (stripChars cs ++ after.unattach) := by
  have hblank (ds : List Char) : ∀ c ∈ ds.takeWhile isBlank, isBlank c = true :=
    List.all_eq_true.mp List.all_takeWhile
  obtain ⟨before, hbefore⟩ := blanks_unattach (hblank cs)
  have hend : ∀ c ∈ ((cs.dropWhile isBlank).reverse.takeWhile isBlank).reverse, isBlank c = true :=
    fun c hc => hblank _ c (List.mem_reverse.mp hc)
  obtain ⟨after, hafter⟩ := blanks_unattach hend
  refine ⟨before, after, ?_⟩
  have hrest : cs.dropWhile isBlank =
      stripChars cs ++ ((cs.dropWhile isBlank).reverse.takeWhile isBlank).reverse := by
    rw [stripChars, ← List.reverse_append, List.takeWhile_append_dropWhile, List.reverse_reverse]
  rw [← hbefore, ← hafter, ← hrest, List.takeWhile_append_dropWhile]

theorem stripChars_last {cs : List Char} {c : Char} (h : (stripChars cs).getLast? = some c) :
    isBlank c = false := by
  rw [stripChars, List.getLast?_reverse] at h
  exact dropWhile_head h

namespace Line

/-! ## Blanks behind a word that is not complete -/

/-- What the end of the line adds to the word that is being read. -/
def Mode.leftover : Mode → List Char
  | .doubleEscaped => ['\\']
  | _ => []

/-- What blanks add to the word that is being read, in a mode in which the first does not end it. -/
def Mode.absorbs : Mode → List Char → List Char
  | .escaped, bs => bs.take 1
  | .doubleEscaped, bs => if bs.head? = some '\n' then bs.tail else bs
  | _, bs => bs

variable (ws : Array String) (w : String)

theorem finish_leftover (mode : Mode) :
    (Scan.mk ws w mode).finish = ws.toList ++ counted [w ++ String.ofList mode.leftover] := by
  cases mode with
  | doubleEscaped =>
    simp only [Scan.finish, if_true, Scan.take, cut_eq, Mode.leftover, Array.toList_append]
    rw [String.push_eq_append]
    rfl
  | _ =>
    rw [finish_eq _ _ (by decide)]
    simp [Mode.leftover]

theorem scan_quoted {mode : Mode} (h : mode = .single ∨ mode = .double) (bs : List Blank) :
    scan ⟨ws, w, mode⟩ bs.unattach = ⟨ws, w ++ String.ofList bs.unattach, mode⟩ := by
  induction bs generalizing w with
  | nil => simp [scan]
  | cons b bs ih =>
    have hstep : (Scan.mk ws w mode).step b.1 = ⟨ws, w.push b.1, mode⟩ := by
      have hslash : b.1 ≠ '\\' := blank_ne b (by decide)
      have hsingle : b.1 ≠ '\'' := blank_ne b (by decide)
      have hdouble : b.1 ≠ '"' := blank_ne b (by decide)
      rcases h with rfl | rfl
      · simp [Scan.step, hsingle, Scan.take]
      · simp [Scan.step, hslash, hdouble, Scan.take]
    have hscan : scan ⟨ws, w, mode⟩ (b :: bs).unattach =
        scan ((Scan.mk ws w mode).step b.1) bs.unattach := rfl
    rw [hscan, hstep, ih]
    simp [← String.toList_inj]

theorem finish_blanks {mode : Mode} (hmode : mode ≠ .bare) (b : Blank) (bs : List Blank) :
    (scan ⟨ws, w, mode⟩ (b :: bs).unattach).finish =
      ws.toList ++ counted [w ++ String.ofList (mode.absorbs (b :: bs).unattach)] := by
  have hquoted {mode : Mode} (h : mode = .single ∨ mode = .double) (v : String)
      (bs : List Blank) : (scan ⟨ws, v, mode⟩ bs.unattach).finish =
        ws.toList ++ counted [v ++ String.ofList bs.unattach] := by
    rw [scan_quoted ws v h, finish_eq]
    rintro rfl
    rcases h with h | h <;> cases h
  have hpush (v : String) (cs : List Char) :
      v.push b.1 ++ String.ofList cs = v ++ String.ofList (b.1 :: cs) := by
    simp [← String.toList_inj]
  cases mode with
  | bare => exact absurd rfl hmode
  | single => exact hquoted (Or.inl rfl) w (b :: bs)
  | double => exact hquoted (Or.inr rfl) w (b :: bs)
  | escaped =>
    have hstep : scan ⟨ws, w, .escaped⟩ (b :: bs).unattach =
        scan ⟨ws, w.push b.1, .bare⟩ bs.unattach := rfl
    have habsorbs : w ++ String.ofList (Mode.absorbs .escaped (b :: bs).unattach) = w.push b.1 := by
      simp [Mode.absorbs]
    rw [hstep, habsorbs]
    cases bs with
    | nil => exact finish_eq ws _ (by decide)
    | cons c cs =>
      rw [scan_blanks, finish_eq _ _ (by decide)]
      simp [counted]
  | doubleEscaped =>
    by_cases hb : b.1 = '\n'
    · have hstep : scan ⟨ws, w, .doubleEscaped⟩ (b :: bs).unattach =
          scan ⟨ws, w, .double⟩ bs.unattach := by
        simp [scan, Scan.step, hb]
      rw [hstep, hquoted (Or.inr rfl)]
      simp [Mode.absorbs, hb]
    · have hstep : scan ⟨ws, w, .doubleEscaped⟩ (b :: bs).unattach =
          scan ⟨ws, w.push b.1, .double⟩ bs.unattach := by
        simp [scan, Scan.step, hb, Scan.take]
      rw [hstep, hquoted (Or.inr rfl), hpush]
      simp [Mode.absorbs, hb]

theorem absorbs_ne {mode : Mode} (hmode : mode ≠ .bare) (b : Blank) (bs : List Blank) :
    mode.absorbs (b :: bs).unattach ≠ mode.leftover := by
  have hslash (c : Blank) : c.1 ≠ '\\' := blank_ne c (by decide)
  cases mode with
  | bare => exact absurd rfl hmode
  | doubleEscaped =>
    by_cases hb : b.1 = '\n'
    · cases bs with
      | nil => simp [Mode.absorbs, Mode.leftover, hb]
      | cons c cs => simp [Mode.absorbs, Mode.leftover, hb, hslash c]
    · simp [Mode.absorbs, Mode.leftover, hb, hslash b]
  | _ => simp [Mode.absorbs, Mode.leftover]

theorem counted_inj {v v' : String} (h : counted [v] = counted [v']) : v = v' := by
  unfold counted at h
  by_cases hv : v = ""
  · by_cases hv' : v' = ""
    · rw [hv, hv']
    · simp [hv, hv'] at h
  · by_cases hv' : v' = ""
    · simp [hv, hv'] at h
    · simpa [hv, hv'] using h

/-! ## Lines -/

/-- Stripping a line changes its words exactly when the line ends with a blank that its last word
takes in: one that is escaped, or inside quotes that nobody closes. -/
theorem words_strip (line : String) :
    words (strip line) = words line ↔
      (∀ c, line.toList.getLast? = some c → isBlank c = false) ∨
        (scan {} (stripChars line.toList)).mode = .bare := by
  obtain ⟨before, after, hline⟩ := strip_parts line.toList
  have hwords : words line = (scan (scan {} (stripChars line.toList)) after.unattach).finish := by
    have hscan : scan {} line.toList = _ := congrArg (scan {}) hline
    rw [words, hscan, scan_append, scan_before, scan_append]
  have hstrip : words (strip line) = (scan {} (stripChars line.toList)).finish := by
    rw [words, strip, String.toList_ofList]
  rw [hwords, hstrip]
  rcases hscan : scan {} (stripChars line.toList) with ⟨ws, w, mode⟩
  cases after with
  | nil =>
    refine ⟨fun _ => ?_, fun _ => rfl⟩
    cases hcore : stripChars line.toList with
    | nil =>
      rw [hcore] at hscan
      cases hscan
      exact Or.inr rfl
    | cons d ds =>
      refine Or.inl fun c hc => ?_
      have hlast : (stripChars line.toList).getLast? = some c := by
        rw [hline, List.unattach_nil, List.append_nil, List.getLast?_append, hcore] at hc
        rw [hcore]
        simpa using hc
      exact stripChars_last hlast
  | cons b bs =>
    have hlast : ¬ ∀ c, line.toList.getLast? = some c → isBlank c = false := by
      intro h
      have hne : (b :: bs).unattach ≠ [] := by simp
      obtain ⟨hblank, -⟩ := List.mem_unattach.mp (List.getLast_mem hne)
      rw [h ((b :: bs).unattach.getLast hne) ?_] at hblank
      · cases hblank
      · rw [hline, ← List.append_assoc, List.getLast?_append, List.getLast?_eq_some_getLast hne]
        rfl
    by_cases hmode : mode = .bare
    · subst hmode
      refine ⟨fun _ => Or.inr rfl, fun _ => ?_⟩
      rw [scan_blanks, finish_eq _ _ (by decide), finish_eq _ _ (by decide)]
      simp [counted]
    · refine ⟨fun h => ?_, fun h => (h.elim hlast hmode).elim⟩
      rw [finish_leftover, finish_blanks ws w hmode, List.append_cancel_left_eq] at h
      have hsame := counted_inj h
      rw [String.append_right_inj, String.ofList_inj] at hsame
      exact absurd hsame.symm (absorbs_ne hmode b bs)

end Line

end CommandShell
