import CommandShell.Path

/-!
# The pieces of a separated text

Texts put one behind the other with a separator between them come apart again as they were put
together.
-/

namespace CommandShell

variable {separator : Char} {cs piece : List Char}

theorem separateChars_ne_nil (separator : Char) (cs : List Char) :
    separateChars separator cs ≠ [] := by
  cases cs with
  | nil => simp [separateChars]
  | cons c cs =>
    rw [separateChars]
    split
    · simp
    · split <;> simp

theorem separateChars_mem (hp : piece ∈ separateChars separator cs) {c : Char} (hc : c ∈ piece) :
    c ∈ cs ∧ c ≠ separator := by
  induction cs generalizing piece with
  | nil =>
    rw [separateChars, List.mem_singleton] at hp
    rw [hp] at hc
    cases hc
  | cons x cs ih =>
    rw [separateChars] at hp
    split at hp
    · rcases List.mem_cons.mp hp with rfl | hp
      · cases hc
      · exact (ih hp hc).imp_left (List.mem_cons_of_mem _)
    · next hx =>
      cases hs : separateChars separator cs with
      | nil => exact absurd hs (separateChars_ne_nil separator cs)
      | cons first rest =>
        rw [hs] at hp ih
        rcases List.mem_cons.mp hp with rfl | hp
        · rcases List.mem_cons.mp hc with rfl | hc
          · exact ⟨List.mem_cons_self, hx⟩
          · exact (ih List.mem_cons_self hc).imp_left (List.mem_cons_of_mem _)
        · exact (ih (List.mem_cons_of_mem _ hp) hc).imp_left (List.mem_cons_of_mem _)

theorem separateChars_plain (h : separator ∉ cs) : separateChars separator cs = [cs] := by
  induction cs with
  | nil => rfl
  | cons c cs ih =>
    rw [List.mem_cons, not_or] at h
    simp [separateChars, Ne.symm h.1, ih h.2]

theorem separateChars_append (cs ds : List Char) :
    separateChars separator (cs ++ separator :: ds) =
      separateChars separator cs ++ separateChars separator ds := by
  induction cs with
  | nil => simp [separateChars]
  | cons c cs ih =>
    simp only [List.cons_append, separateChars, ih]
    split
    · rfl
    · cases hs : separateChars separator cs with
      | nil => exact absurd hs (separateChars_ne_nil separator cs)
      | cons piece rest => rfl

theorem separateChars_eq_splitOn (separator : Char) (cs : List Char) :
    separateChars separator cs = cs.splitOn separator := by
  induction cs with
  | nil => rfl
  | cons c cs ih =>
    rw [separateChars, List.splitOn, List.splitOnP_cons_eq_if_modifyHead, ← List.splitOn, ← ih]
    cases hs : separateChars separator cs with
    | nil => exact absurd hs (separateChars_ne_nil separator cs)
    | cons piece rest => simp

/-! ## Texts -/

theorem separate_empty (separator : Char) : separate separator "" = [""] := rfl

theorem separate_plain {text : String} (h : separator ∉ text.toList) :
    separate separator text = [text] := by
  simp [separate, separateChars_plain h]

theorem separate_append (text rest : String) :
    separate separator (text ++ String.singleton separator ++ rest) =
      separate separator text ++ separate separator rest := by
  simp [separate, separateChars_append]

theorem separate_intercalate {pieces : List String} (hne : pieces ≠ [])
    (h : ∀ piece ∈ pieces, separator ∉ piece.toList) :
    separate separator ((String.singleton separator).intercalate pieces) = pieces := by
  induction pieces with
  | nil => exact absurd rfl hne
  | cons piece rest ih =>
    have hpiece := separate_plain (h piece List.mem_cons_self)
    cases rest with
    | nil => simpa using hpiece
    | cons next rest =>
      have hrest := ih (by simp) fun piece hp => h piece (List.mem_cons_of_mem _ hp)
      rw [String.intercalate_cons_cons, separate_append, hpiece, hrest]
      rfl

theorem separate_ne_nil (separator : Char) (text : String) : separate separator text ≠ [] := by
  simp [separate, separateChars_ne_nil]

theorem separator_not_mem {text piece : String} (hp : piece ∈ separate separator text) :
    separator ∉ piece.toList := by
  obtain ⟨cs, hcs, rfl⟩ := List.mem_map.mp hp
  rw [String.toList_ofList]
  exact fun hc => (separateChars_mem hcs hc).2 rfl

theorem intercalate_separate (separator : Char) (text : String) :
    (String.singleton separator).intercalate (separate separator text) = text := by
  have hpieces : (separate separator text).map String.toList =
      text.toList.splitOn separator := by
    simp [separate, ← separateChars_eq_splitOn]
  rw [← String.toList_inj, String.toList_intercalate, hpieces, String.toList_singleton,
    List.intercalate_splitOn]

end CommandShell
