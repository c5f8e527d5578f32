import CommandShell.Proofs.Line.Writing
import Mathlib.Algebra.Ring.Parity
import Mathlib.Data.List.DropRight

/-!
# Operators in a row

A path may look like an operator, so what a word is read as depends on the words in front of it. It
does so by no more than the parity of the operators that stand right before it.
-/

namespace CommandShell

def isOperator (word : String) : Bool := (Operator.all.map Operator.symbol).contains word

/-- The length of the row of operators at the end of words. -/
def operatorRun (words : List String) : Nat := (words.rtakeWhile isOperator).length

/-- What a word of a line is read as. A path belongs to the operator that it follows. -/
inductive Role
  | word
  | operator (op : Operator)
  | path (op : Operator)
  deriving DecidableEq

namespace Extraction

def role (x : Extraction) (word : String) : Role :=
  match x.waiting with
  | some op => .path op
  | none =>
    match Operator.ofWord? word with
    | some op => .operator op
    | none => .word

def target (x : Extraction) : Stream → Target
  | .out => x.out
  | .err => x.err

theorem step_role (x : Extraction) (word : String) :
    x.step word =
      match x.role word with
      | .word => { x with words := x.words.push word }
      | .operator op => { x with waiting := some op }
      | .path op => x.redirect op word := by
  unfold step role
  cases x.waiting with
  | some op => rfl
  | none => cases Operator.ofWord? word <;> rfl

theorem redirect_target (x : Extraction) (op : Operator) (path : String) (stream : Stream) :
    (x.redirect op path).target stream =
      if op.stream = stream then .file path op.mode else x.target stream := by
  cases hs : op.stream <;> cases stream <;> simp [redirect, target, hs]

theorem redirect_words (x : Extraction) (op : Operator) (path : String) :
    (x.redirect op path).words = x.words := by
  cases hs : op.stream <;> simp [redirect, hs]

end Extraction

def roleAt (words : List String) (i : Nat) : Option Role :=
  words[i]?.map (extract (words.take i)).role

/-- The words at two places that follow each other are read as an operator of the stream and its
path. -/
structure Redirects (words : List String) (stream : Stream) (i : Nat) (op : Operator)
    (path : String) : Prop where
  operator : roleAt words i = some (.operator op)
  stream : op.stream = stream
  path : words[i + 1]? = some path

/-- Where a stream goes by the last of its operators that has a path. -/
inductive Redirected (words : List String) (stream : Stream) : Target → Prop
  | last {i : Nat} {op : Operator} {path : String} :
      Redirects words stream i op path →
      (∀ j op' path', Redirects words stream j op' path' → j ≤ i) →
      Redirected words stream (.file path op.mode)
  | never : (∀ i op path, ¬ Redirects words stream i op path) →
      Redirected words stream .console

/-! ## Single words -/

theorem isOperator_iff {word : String} :
    isOperator word = true ↔ ∃ op : Operator, word = op.symbol := by
  rw [isOperator, List.contains_iff_mem, List.mem_map]
  refine ⟨fun ⟨op, _, h⟩ => ⟨op, h.symm⟩, fun ⟨op, h⟩ => ⟨op, ?_, h.symm⟩⟩
  cases op <;> decide

theorem ofWord?_eq_some {word : String} {op : Operator} :
    Operator.ofWord? word = some op ↔ word = op.symbol := by
  refine ⟨fun h => ?_, fun h => h ▸ ofWord?_symbol op⟩
  have hsymbol : op.symbol = word := by simpa using List.find?_some h
  exact hsymbol.symm

theorem ofWord?_none_iff {word : String} :
    Operator.ofWord? word = none ↔ isOperator word = false := by
  rw [← Bool.not_eq_true, isOperator_iff]
  constructor
  · rintro h ⟨op, rfl⟩
    rw [ofWord?_symbol] at h
    cases h
  · exact fun h => ofWord?_eq_none fun op hop => h ⟨op, hop⟩

theorem missingPath_eq (op : Operator) :
    op.missingPath =
      if op.symbol ∈ [">>", "1>>", "2>>"] then "Syntax error: missing filename for append"
      else "Syntax error: missing filename for redirection" := by
  cases op <;> rfl

/-! ## One word more -/

section Concat

variable (words : List String) (word : String)

theorem extract_concat : extract (words ++ [word]) = (extract words).step word := by
  rw [extract, List.foldl_append]
  rfl

theorem operatorRun_concat :
    operatorRun (words ++ [word]) = if isOperator word then operatorRun words + 1 else 0 := by
  unfold operatorRun
  rw [List.rtakeWhile_concat]
  split
  · rw [List.length_append]
    rfl
  · rfl

variable {words word}

theorem roleAt_left {i : Nat} (h : i < words.length) :
    roleAt (words ++ [word]) i = roleAt words i := by
  rw [roleAt, roleAt, List.getElem?_append_left h, List.take_append_of_le_length h.le]

theorem roleAt_last : roleAt (words ++ [word]) words.length = some ((extract words).role word) := by
  simp [roleAt]

end Concat

/-! ## The reader and the row -/

/-- The reader waits for a path after an odd row of operators, the last of which it is. -/
theorem waiting_run (words : List String) :
    ((extract words).waiting = none ↔ Even (operatorRun words)) ∧
      ∀ op, (extract words).waiting = some op ↔
        ∃ i, i + 1 = words.length ∧ roleAt words i = some (.operator op) := by
  induction words using List.reverseRecOn with
  | nil => exact ⟨by decide, fun op => by simp [extract]⟩
  | append_singleton words word ih =>
    have hplace (op : Operator) : (∃ i, i + 1 = (words ++ [word]).length ∧
        roleAt (words ++ [word]) i = some (.operator op)) ↔
          (extract words).role word = .operator op := by
      constructor
      · rintro ⟨i, hi, hrole⟩
        obtain rfl : i = words.length := by simpa using hi
        simpa [roleAt_last] using hrole
      · exact fun h => ⟨words.length, by simp, by rw [roleAt_last, h]⟩
    simp only [hplace]
    rw [extract_concat, operatorRun_concat, Extraction.step_role, Extraction.role]
    cases hw : (extract words).waiting with
    | some op =>
      have hodd : ¬ Even (operatorRun words) := by simp [← ih.1, hw]
      have heven : Even (if isOperator word = true then operatorRun words + 1 else 0) := by
        split
        · exact Nat.even_add_one.mpr hodd
        · exact ⟨0, rfl⟩
      simp [redirect_waiting, heven]
    | none =>
      have heven : Even (operatorRun words) := ih.1.mp hw
      cases hop : Operator.ofWord? word with
      | none => simp [ofWord?_none_iff.mp hop]
      | some op =>
        have hsome : isOperator word = true :=
          isOperator_iff.mpr ⟨op, ofWord?_eq_some.mp hop⟩
        simp [hsome, Nat.even_add_one, heven]

theorem roleAt_run {words : List String} {i : Nat} {word : String} (h : words[i]? = some word) :
    (∀ op, roleAt words i = some (.operator op) ↔
        word = op.symbol ∧ Even (operatorRun (words.take i))) ∧
      ((∃ op, roleAt words i = some (.path op)) ↔ Odd (operatorRun (words.take i))) ∧
      (roleAt words i = some .word ↔
        isOperator word = false ∧ Even (operatorRun (words.take i))) := by
  have hrun := (waiting_run (words.take i)).1
  simp only [roleAt, h, Option.map_some, Option.some.injEq, Extraction.role,
    ← Nat.not_even_iff_odd, ← hrun, ← ofWord?_eq_some, ← ofWord?_none_iff]
  cases (extract (words.take i)).waiting with
  | some op => simp
  | none => cases Operator.ofWord? word <;> simp

/-! ## Words and targets -/

theorem extract_kept (words : List String) :
    (extract words).words.toList =
      (words.zipIdx.filter fun (_, i) => roleAt words i = some .word).map Prod.fst := by
  induction words using List.reverseRecOn with
  | nil => rfl
  | append_singleton words word ih =>
    have hleft : (words.zipIdx.filter fun (_, i) => roleAt (words ++ [word]) i = some .word) =
        words.zipIdx.filter fun (_, i) => roleAt words i = some .word := by
      refine List.filter_congr fun ⟨w, i⟩ hmem => ?_
      have hi : i < words.length := by
        simpa using (List.mem_zipIdx hmem).2.1
      simp only [roleAt_left hi]
    rw [extract_concat, Extraction.step_role, List.zipIdx_append, List.filter_append,
      List.map_append, hleft, ← ih]
    cases hrole : (extract words).role word with
    | word => simp [roleAt_last, hrole]
    | operator op => simp [roleAt_last, hrole]
    | path op => simp [roleAt_last, hrole, Extraction.redirect_words]

theorem redirects_concat {words : List String} {word : String} {stream : Stream} {i : Nat}
    {op : Operator} {path : String} :
    Redirects (words ++ [word]) stream i op path ↔
      Redirects words stream i op path ∨
        i + 1 = words.length ∧ (extract words).waiting = some op ∧ op.stream = stream ∧
          path = word := by
  rw [(waiting_run words).2]
  constructor
  · rintro ⟨hrole, hstream, hpath⟩
    have hlt : i + 1 < (words ++ [word]).length := (List.getElem?_eq_some_iff.mp hpath).1
    rw [List.length_append, List.length_singleton] at hlt
    rw [roleAt_left (by omega)] at hrole
    by_cases hi : i + 1 = words.length
    · rw [hi, List.getElem?_concat_length] at hpath
      exact Or.inr ⟨hi, ⟨i, hi, hrole⟩, hstream, (Option.some.inj hpath).symm⟩
    · rw [List.getElem?_append_left (by omega)] at hpath
      exact Or.inl ⟨hrole, hstream, hpath⟩
  · rintro (⟨hrole, hstream, hpath⟩ | ⟨hi, ⟨j, hj, hrole⟩, hstream, rfl⟩)
    · have hlt : i + 1 < words.length := (List.getElem?_eq_some_iff.mp hpath).1
      exact ⟨by rwa [roleAt_left (by omega)], hstream, by rwa [List.getElem?_append_left hlt]⟩
    · obtain rfl : j = i := by omega
      exact ⟨by rwa [roleAt_left (by omega)], hstream, by rw [hi, List.getElem?_concat_length]⟩

theorem extract_redirected (words : List String) (stream : Stream) :
    Redirected words stream ((extract words).target stream) := by
  induction words using List.reverseRecOn with
  | nil =>
    have hnone : ∀ i op path, ¬ Redirects [] stream i op path := by
      rintro i op path ⟨-, -, hpath⟩
      cases hpath
    cases stream <;> exact .never hnone
  | append_singleton words word ih =>
    by_cases hw : ∃ op, (extract words).waiting = some op ∧ op.stream = stream
    · -- The word is the path of the stream, and nothing stands behind it.
      obtain ⟨op, hop, hstream⟩ := hw
      obtain ⟨i, hi, -⟩ := ((waiting_run words).2 op).mp hop
      have htarget : (extract (words ++ [word])).target stream = .file word op.mode := by
        rw [extract_concat, Extraction.step_role, Extraction.role, hop]
        simp only [Extraction.redirect_target, if_pos hstream]
      rw [htarget]
      refine .last (redirects_concat.mpr (Or.inr ⟨hi, hop, hstream, rfl⟩)) fun j op' path' h => ?_
      have hlt := (List.getElem?_eq_some_iff.mp h.path).1
      rw [List.length_append, List.length_singleton] at hlt
      omega
    · have hsame : ∀ i op path, Redirects (words ++ [word]) stream i op path ↔
          Redirects words stream i op path := by
        intro i op path
        rw [redirects_concat]
        exact or_iff_left fun h => hw ⟨op, h.2.1, h.2.2.1⟩
      have htarget : (extract (words ++ [word])).target stream = (extract words).target stream := by
        rw [extract_concat, Extraction.step_role, Extraction.role]
        cases hop : (extract words).waiting with
        | some op =>
          have hstream : op.stream ≠ stream := fun h => hw ⟨op, hop, h⟩
          simp only [Extraction.redirect_target, if_neg hstream]
        | none =>
          simp only
          cases Operator.ofWord? word <;> cases stream <;> rfl
      rw [htarget]
      generalize (extract words).target stream = target at ih ⊢
      cases ih with
      | last h hlast =>
        exact .last ((hsame _ _ _).mpr h) fun j op' path' h' =>
          hlast j op' path' ((hsame _ _ _).mp h')
      | never h => exact .never fun i op path h' => h i op path ((hsame _ _ _).mp h')

/-! ## The end of the line -/

theorem extract_dangling (words : List String) :
    (extract words).errors =
        (if Odd (operatorRun words) then
          [if words.getLast? ∈ [some ">>", some "1>>", some "2>>"] then
            "Syntax error: missing filename for append"
          else "Syntax error: missing filename for redirection"]
        else []) ∧
      (Odd (operatorRun words) →
        (extract words).words = (extract words.dropLast).words ∧
          ∀ stream, (extract words).target stream = (extract words.dropLast).target stream) := by
  obtain ⟨heven, hlast⟩ := waiting_run words
  cases hw : (extract words).waiting with
  | none =>
    have hodd : ¬ Odd (operatorRun words) := Nat.not_odd_iff_even.mpr (heven.mp hw)
    simp [Extraction.errors, hw, hodd]
  | some op =>
    have hodd : Odd (operatorRun words) := by
      rw [← Nat.not_even_iff_odd, ← heven, hw]
      simp
    obtain ⟨i, hi, hrole⟩ := (hlast op).mp hw
    rcases List.eq_nil_or_concat words with rfl | ⟨before, word, rfl⟩
    · cases hi
    · obtain rfl : i = before.length := by simpa using hi
      rw [List.concat_eq_append] at *
      rw [roleAt_last, Option.some.injEq] at hrole
      have hword : word = op.symbol := by
        have hplace : (before ++ [word])[before.length]? = some word :=
          List.getElem?_concat_length
        exact (((roleAt_run hplace).1 op).mp (by rw [roleAt_last, hrole])).1
      refine ⟨?_, fun _ => ?_⟩
      · rw [Extraction.errors, hw, if_pos hodd, hword, List.getLast?_concat]
        simp [missingPath_eq]
      · rw [List.dropLast_concat, extract_concat, Extraction.step_role, hrole]
        exact ⟨rfl, fun stream => by cases stream <;> rfl⟩

/-- What every word is read as depends on the parity of the operators in front of it. The command
has the words that are read as words, in order; each stream goes where the last of its operators
with a path sends it; and an odd row of operators at the end is one error, and nothing else. -/
theorem extract_parity (words : List String) :
    (∀ i word, words[i]? = some word →
      (∀ op, roleAt words i = some (.operator op) ↔
          word = op.symbol ∧ Even (operatorRun (words.take i))) ∧
        ((∃ op, roleAt words i = some (.path op)) ↔ Odd (operatorRun (words.take i))) ∧
        (roleAt words i = some .word ↔
          isOperator word = false ∧ Even (operatorRun (words.take i)))) ∧
      (extract words).words.toList =
        (words.zipIdx.filter fun (_, i) => roleAt words i = some .word).map Prod.fst ∧
      (∀ stream, Redirected words stream ((extract words).target stream)) ∧
      (extract words).errors =
        (if Odd (operatorRun words) then
          [if words.getLast? ∈ [some ">>", some "1>>", some "2>>"] then
            "Syntax error: missing filename for append"
          else "Syntax error: missing filename for redirection"]
        else []) ∧
      (Odd (operatorRun words) →
        (extract words).words = (extract words.dropLast).words ∧
          ∀ stream, (extract words).target stream = (extract words.dropLast).target stream) :=
  ⟨fun _ _ h => roleAt_run h, extract_kept words, extract_redirected words,
    extract_dangling words⟩

/-- Four operators in a row: the second and the last are paths. -/
example : (extract ["a", ">", ">>", "2>", ">"]).words.toList = ["a"] ∧
    (extract ["a", ">", ">>", "2>", ">"]).out = .file ">>" .overwrite ∧
    (extract ["a", ">", ">>", "2>", ">"]).err = .file ">" .overwrite := by
  decide

end CommandShell
