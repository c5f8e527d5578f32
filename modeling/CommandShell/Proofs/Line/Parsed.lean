import CommandShell.Proofs.Line.Parity

/-!
# The command of a line

Reading a line never fails. No word of a line is empty, so a command has a name, and its files have
paths; and no operator is left among its words, so there is nothing more to be taken out of them.
-/

namespace CommandShell

theorem words_ne_empty (line : String) : ∀ word ∈ Line.words line, word ≠ "" := by
  obtain ⟨l, hl⟩ := Line.layout_unique line
  have hline : l.text = line := (hl l).mpr rfl
  rw [← hline, Line.words_text]
  intro word hword
  simpa using (List.mem_filter.mp hword).2

theorem ne_symbol {word : String} (h : isOperator word = false) (op : Operator) :
    word ≠ op.symbol := by
  rintro rfl
  rw [isOperator_iff.mpr ⟨op, rfl⟩] at h
  cases h

/-! ## What is found among words -/

/-- Nothing that was found is empty, and no operator is kept as a word. -/
structure Extraction.Clean (x : Extraction) : Prop where
  words : ∀ w ∈ x.words.toList, w ≠ "" ∧ isOperator w = false
  paths : ∀ stream path, (x.target stream).path? = some path → path ≠ ""

section Clean

variable {x : Extraction} {word : String}

theorem role_word (h : x.role word = .word) : isOperator word = false := by
  unfold Extraction.role at h
  cases hw : x.waiting with
  | some op => simp [hw] at h
  | none =>
    cases hop : Operator.ofWord? word with
    | some op => simp [hw, hop] at h
    | none => exact ofWord?_none_iff.mp hop

theorem clean_step (hx : x.Clean) (hword : word ≠ "") : (x.step word).Clean := by
  rw [Extraction.step_role]
  cases hrole : x.role word with
  | word =>
    refine ⟨fun w hw => ?_, hx.paths⟩
    rw [Array.toList_push, List.mem_append, List.mem_singleton] at hw
    rcases hw with hw | rfl
    · exact hx.words w hw
    · exact ⟨hword, role_word hrole⟩
  | operator op => exact ⟨hx.words, hx.paths⟩
  | path op =>
    refine ⟨?_, fun stream path hpath => ?_⟩
    · rw [Extraction.redirect_words]
      exact hx.words
    · rw [Extraction.redirect_target] at hpath
      split at hpath
      · cases hpath
        exact hword
      · exact hx.paths stream path hpath

theorem extract_clean {words : List String} (h : ∀ word ∈ words, word ≠ "") :
    (extract words).Clean := by
  induction words using List.reverseRecOn with
  | nil =>
    refine ⟨fun w hw => (nomatch hw), fun stream path hpath => ?_⟩
    cases stream <;> cases hpath
  | append_singleton words word ih =>
    simp only [List.mem_append, List.mem_singleton, or_imp, forall_and, forall_eq] at h
    rw [extract_concat]
    exact clean_step (ih h.1) h.2

end Clean

theorem parse_found (line : String) : (Line.parse line).Clean := extract_clean (words_ne_empty line)

theorem extract_plain {words : List String} (h : ∀ w ∈ words, isOperator w = false) :
    extract words = { words := words.toArray } := by
  have htexts : (words.map Part.word).flatMap Part.texts = words := by
    simp [List.flatMap_map, Part.texts]
  have hwords : (words.map Part.word).filterMap Part.word? = words := by
    simp [List.filterMap_map, Function.comp_def, Part.word?]
  have hnone : (words.map Part.word).filterMap Part.redirection? = [] := by
    simp [List.filterMap_map, Function.comp_def, Part.redirection?]
  have hplain : ∀ w ∈ (words.map Part.word).filterMap Part.word?,
      ∀ op : Operator, w ≠ op.symbol := by
    rw [hwords]
    exact fun w hw => ne_symbol (h w hw)
  have hgain := extract_parts (words.map Part.word) hplain {} rfl
  rw [htexts, Extraction.gain, hwords, hnone, after_nil, after_nil] at hgain
  simpa [extract] using hgain

/-! ## The command -/

theorem command?_ok (line : String) : ∃ c?, (Line.parse line).command? = .ok c? := by
  unfold Extraction.command?
  split
  · exact ⟨none, rfl⟩
  · next name args h =>
    have hmem : name ∈ (Line.parse line).words.toList := by simp [h]
    have hname := ((parse_found line).words name hmem).1
    exact ⟨_, by simp [Command.make, hname]; rfl⟩

theorem command?_parts {x : Extraction} {c : Command} (h : x.command? = .ok (some c)) :
    x.words.toList = c.name :: c.args ∧ c.out = x.out ∧ c.err = x.err := by
  unfold Extraction.command? at h
  split at h
  · cases h
  · next name args hwords =>
    unfold Command.make at h
    split at h
    · cases h
    · cases h
      exact ⟨hwords, rfl, rfl⟩

theorem command?_clean {x : Extraction} {c : Command} (hx : x.Clean)
    (h : x.command? = .ok (some c)) :
    (∀ w ∈ c.name :: c.args, w ≠ "" ∧ isOperator w = false) ∧
      ∀ path, c.out.path? = some path ∨ c.err.path? = some path → path ≠ "" := by
  obtain ⟨hwords, hout, herr⟩ := command?_parts h
  rw [← hwords, hout, herr]
  refine ⟨hx.words, ?_⟩
  rintro path (hpath | hpath)
  · exact hx.paths .out path hpath
  · exact hx.paths .err path hpath

theorem command?_none_iff {line : String} :
    (Line.parse line).command? = .ok none ↔ ∀ i, roleAt (Line.words line) i ≠ some .word := by
  have hnone : (Line.parse line).command? = .ok none ↔ (Line.parse line).words.toList = [] := by
    unfold Extraction.command?
    split
    · next h => simp [h]
    · next name args h =>
      rw [h, Command.make]
      split <;> simp [Except.map]
  rw [hnone, Line.parse, extract_kept, List.map_eq_nil_iff, List.filter_eq_nil_iff]
  constructor
  · intro h i hrole
    obtain ⟨word, hword, -⟩ := Option.map_eq_some_iff.mp hrole
    exact h (word, i) (List.mk_mem_zipIdx_iff_getElem?.mpr hword) (by simpa using hrole)
  · rintro h ⟨word, i⟩ -
    simpa using h i

theorem command?_none_run {line : String} :
    (Line.parse line).command? = .ok none ↔ ∀ i word, (Line.words line)[i]? = some word →
      isOperator word = true ∨ Odd (operatorRun ((Line.words line).take i)) := by
  rw [command?_none_iff]
  have hread {i : Nat} {word : String} (hword : (Line.words line)[i]? = some word) :
      roleAt (Line.words line) i ≠ some .word ↔
        isOperator word = true ∨ Odd (operatorRun ((Line.words line).take i)) := by
    rw [Ne, (roleAt_run hword).2.2, not_and_or, Bool.not_eq_false, Nat.not_even_iff_odd]
  constructor
  · exact fun h i word hword => (hread hword).mp (h i)
  · intro h i hrole
    obtain ⟨word, hword, -⟩ := Option.map_eq_some_iff.mp hrole
    exact (hread hword).mpr (h i word hword) hrole

theorem errors_length (x : Extraction) : x.errors.length ≤ 1 := by
  unfold Extraction.errors
  cases x.waiting <;> simp

/-- A line is always read, with one error at most. It has no command when all of its words are
operators and their paths. Else no word of the command is empty or an operator, and no file is
without a path; and the words of the command, read once more, are all there is to be found. -/
theorem parse_clean (line : String) :
    let words := Line.words line
    let x := Line.parse line
    (∃ c?, x.command? = .ok c?) ∧
      (x.command? = .ok none ↔ ∀ i word, words[i]? = some word →
        isOperator word = true ∨ Odd (operatorRun (words.take i))) ∧
      (∀ c, x.command? = .ok (some c) →
        (∀ w ∈ c.name :: c.args, w ≠ "" ∧ ∀ op : Operator, w ≠ op.symbol) ∧
          (∀ path, c.out.path? = some path ∨ c.err.path? = some path → path ≠ "") ∧
          extract (c.name :: c.args) = { words := (c.name :: c.args).toArray } ∧
          (extract (c.name :: c.args)).errors = []) ∧
      x.errors.length ≤ 1 := by
  intro words x
  refine ⟨command?_ok line, command?_none_run, fun c hc => ?_, errors_length x⟩
  obtain ⟨hwords, hpaths⟩ := command?_clean (parse_found line) hc
  have hplain := extract_plain fun w hw => (hwords w hw).2
  exact ⟨fun w hw => ⟨(hwords w hw).1, ne_symbol (hwords w hw).2⟩, hpaths, hplain,
    by rw [hplain]; rfl⟩

theorem parse_clean_dangling :
    (Line.parse "'' 2>> > a \"\" b 1>").command? =
        .ok (some { name := "a", args := ["b"], err := .file ">" .append }) ∧
      extract ["a", "b"] = { words := #["a", "b"] } ∧
      (Line.parse "'' 2>> > a \"\" b 1>").errors.length ≤ 1 := by
  have hc : (Line.parse "'' 2>> > a \"\" b 1>").command? =
      .ok (some { name := "a", args := ["b"], err := .file ">" .append }) := rfl
  obtain ⟨-, -, hcommand, herrors⟩ := parse_clean "'' 2>> > a \"\" b 1>"
  exact ⟨hc, (hcommand _ hc).2.2.1, herrors⟩

end CommandShell
