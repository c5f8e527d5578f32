import CommandShell.Line.Redirection
import CommandShell.Proofs.Line.Reading

/-!
# Writing a command

A line that is written from the words and the redirections of a command, in any order and with any
quotes, is parsed into that command.
-/

namespace CommandShell

/-! ## Operators -/

theorem ofWord?_symbol (op : Operator) : Operator.ofWord? op.symbol = some op := by
  cases op <;> rfl

theorem ofWord?_eq_none {word : String} (h : ∀ op : Operator, word ≠ op.symbol) :
    Operator.ofWord? word = none := by
  rw [Operator.ofWord?, List.find?_eq_none]
  intro op _
  simpa using (h op).symm

theorem symbol_ne_empty (op : Operator) : op.symbol ≠ "" := by
  cases op <;> decide

/-! ## Parts of a line -/

structure Redirection where
  op : Operator
  path : String
  named : path ≠ ""

inductive Part
  | word (text : String)
  | redirection (r : Redirection)

namespace Part

def texts : Part → List String
  | word text => [text]
  | redirection r => [r.op.symbol, r.path]

def word? : Part → Option String
  | word text => some text
  | redirection _ => none

def redirection? : Part → Option Redirection
  | word _ => none
  | redirection r => some r

end Part

/-- Where a stream goes after redirections: the last one of the stream counts. -/
def Target.after (t : Target) (s : Stream) (rs : List Redirection) : Target :=
  match (rs.filter (·.op.stream = s)).getLast? with
  | none => t
  | some r => .file r.path r.op.mode

theorem after_nil (t : Target) (s : Stream) : t.after s [] = t := rfl

theorem after_cons (t : Target) (s : Stream) (r : Redirection) (rs : List Redirection) :
    t.after s (r :: rs) =
      (if r.op.stream = s then .file r.path r.op.mode else t : Target).after s rs := by
  unfold Target.after
  by_cases h : r.op.stream = s
  · rw [List.filter_cons_of_pos (by simpa using h), List.getLast?_cons, if_pos h]
    cases (rs.filter (·.op.stream = s)).getLast? <;> rfl
  · rw [List.filter_cons_of_neg (by simpa using h), if_neg h]

theorem after_congr (t : Target) {s : Stream} {rs rs' : List Redirection}
    (h : rs.filter (·.op.stream = s) = rs'.filter (·.op.stream = s)) :
    t.after s rs = t.after s rs' := by
  unfold Target.after
  rw [h]

/-! ## Extraction -/

def Extraction.gain (x : Extraction) (parts : List Part) : Extraction where
  words := x.words ++ (parts.filterMap Part.word?).toArray
  out := x.out.after .out (parts.filterMap Part.redirection?)
  err := x.err.after .err (parts.filterMap Part.redirection?)

theorem step_word (x : Extraction) {text : String} (hx : x.waiting = none)
    (h : ∀ op : Operator, text ≠ op.symbol) :
    x.step text = { x with words := x.words.push text } := by
  rw [Extraction.step, hx, ofWord?_eq_none h]

theorem step_redirection (x : Extraction) (r : Redirection) (hx : x.waiting = none) :
    (x.step r.op.symbol).step r.path = x.redirect r.op r.path := by
  have hop : x.step r.op.symbol = { x with waiting := some r.op } := by
    rw [Extraction.step, hx, ofWord?_symbol]
  rw [hop]
  cases hs : r.op.stream <;> simp [Extraction.step, Extraction.redirect, hs]

theorem gain_word (x : Extraction) (text : String) (parts : List Part) :
    ({ x with words := x.words.push text } : Extraction).gain parts =
      x.gain (.word text :: parts) := by
  simp [Extraction.gain, List.filterMap_cons, Part.word?, Part.redirection?]

theorem gain_redirection (x : Extraction) (r : Redirection) (parts : List Part) :
    (x.redirect r.op r.path).gain parts = x.gain (.redirection r :: parts) := by
  cases hs : r.op.stream <;>
    simp [Extraction.gain, Extraction.redirect, List.filterMap_cons, Part.word?,
      Part.redirection?, after_cons, hs]

theorem redirect_waiting (x : Extraction) (op : Operator) (path : String) :
    (x.redirect op path).waiting = none := by
  cases hs : op.stream <;> simp [Extraction.redirect, hs]

theorem extract_parts (parts : List Part)
    (h : ∀ w ∈ parts.filterMap Part.word?, ∀ op : Operator, w ≠ op.symbol)
    (x : Extraction) (hx : x.waiting = none) :
    (parts.flatMap Part.texts).foldl Extraction.step x = x.gain parts := by
  induction parts generalizing x with
  | nil => simp [Extraction.gain, after_nil, ← hx]
  | cons part parts ih =>
    cases part with
    | word text =>
      simp only [List.filterMap_cons, Part.word?, List.mem_cons, forall_eq_or_imp] at h
      rw [List.flatMap_cons, Part.texts, List.singleton_append, List.foldl_cons,
        step_word x hx h.1, ih h.2 { x with words := x.words.push text } hx, gain_word]
    | redirection r =>
      simp only [List.filterMap_cons, Part.word?] at h
      rw [List.flatMap_cons, Part.texts, List.cons_append, List.singleton_append, List.foldl_cons,
        List.foldl_cons, step_redirection x r hx, ih h _ (redirect_waiting x r.op r.path),
        gain_redirection]

/-! ## The round trip -/

theorem counted_texts {parts : List Part} (h : ∀ w ∈ parts.filterMap Part.word?, w ≠ "") :
    Line.counted (parts.flatMap Part.texts) = parts.flatMap Part.texts := by
  rw [Line.counted, List.filter_eq_self]
  intro text htext
  obtain ⟨part, hpart, htext⟩ := List.mem_flatMap.mp htext
  cases part with
  | word w =>
    obtain rfl : text = w := by simpa [Part.texts] using htext
    simpa using h text (List.mem_filterMap.mpr ⟨_, hpart, rfl⟩)
  | redirection r =>
    simp only [Part.texts, List.mem_cons, List.not_mem_nil, or_false] at htext
    rcases htext with rfl | rfl
    · simpa using symbol_ne_empty r.op
    · simpa using r.named

/-- A command with its redirections, written from parts in any order that keeps the order of the
words and the order of the redirections of each stream, and in any layout, is parsed back without an
error. -/
theorem parse_written (name : String) (args : List String) (rs : List Redirection)
    (parts : List Part) (l : Line.Layout)
    (hwords : ∀ w ∈ name :: args, w ≠ "" ∧ ∀ op : Operator, w ≠ op.symbol)
    (horder : parts.filterMap Part.word? = name :: args)
    (hstreams : ∀ s : Stream, (parts.filterMap Part.redirection?).filter (·.op.stream = s) =
      rs.filter (·.op.stream = s))
    (hl : l.meanings = parts.flatMap Part.texts) :
    (Line.parse l.text).errors = [] ∧
      (Line.parse l.text).command? = .ok (some
        ⟨name, args, Target.console.after .out rs, Target.console.after .err rs⟩) := by
  have hparts : Line.words l.text = parts.flatMap Part.texts := by
    rw [Line.words_text, hl, counted_texts]
    intro w hw
    exact (hwords w (horder ▸ hw)).1
  have hparse : Line.parse l.text = Extraction.gain {} parts := by
    rw [Line.parse, extract, hparts, extract_parts parts _ _ rfl]
    intro w hw
    exact (hwords w (horder ▸ hw)).2
  have hname : name.isEmpty = false := by
    simpa using (hwords name List.mem_cons_self).1
  rw [hparse]
  refine ⟨rfl, ?_⟩
  simp only [Extraction.command?, Extraction.gain, horder]
  rw [after_congr _ (hstreams .out), after_congr _ (hstreams .err)]
  simp [Command.make, hname]
  rfl

def mixedLine : Line.Layout :=
  let gap : Line.Blank := ⟨' ', by decide⟩
  ⟨[], some <|
    .more ⟨[.bare '>' (by decide)], by decide⟩ gap [] <|
    .more ⟨[.bare 'o' (by decide)], by decide⟩ gap [] <|
    .more ⟨[.single [⟨'e', by decide⟩]], by decide⟩ gap [] <|
    .more ⟨[.bare '1' (by decide), .double [.raw '>' (by decide)], .escaped '>'], by decide⟩ gap [] <|
    .more ⟨[.double [.raw '>' (by decide)]], by decide⟩ gap [gap] <|
    .last ⟨[.bare 'a' (by decide), .escaped ' ', .bare 'b' (by decide)], by decide⟩ [gap]⟩

theorem parse_written_mixedLine :
    let rs : List Redirection := [⟨.write, "o", by decide⟩, ⟨.appendOne, ">", by decide⟩]
    (∀ w ∈ ["e", "a b"], w ≠ "" ∧ ∀ op : Operator, w ≠ op.symbol) ∧
      (Line.parse mixedLine.text).errors = [] ∧
      (Line.parse mixedLine.text).command? = .ok (some
        ⟨"e", ["a b"], Target.console.after .out rs, Target.console.after .err rs⟩) := by
  intro rs
  have hwords : ∀ w ∈ ["e", "a b"], w ≠ "" ∧ ∀ op : Operator, w ≠ op.symbol := by
    intro w hw
    simp only [List.mem_cons, List.not_mem_nil, or_false] at hw
    rcases hw with rfl | rfl
    · exact ⟨by decide, fun op => by cases op <;> decide⟩
    · exact ⟨by decide, fun op => by cases op <;> decide⟩
  refine ⟨hwords, ?_⟩
  exact parse_written "e" ["a b"] rs
    [.redirection ⟨.write, "o", by decide⟩, .word "e", .redirection ⟨.appendOne, ">", by decide⟩,
      .word "a b"] mixedLine hwords rfl (fun s => rfl) (by decide)

end CommandShell
