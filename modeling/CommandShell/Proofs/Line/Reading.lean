import CommandShell.Line.Word
import CommandShell.Proofs.Line.Unique

/-!
# The reader of a line follows its layout

What the reader does with each part of a layout, and from that the words of a line.
-/

namespace CommandShell.Line

variable (ws : Array String) (w : String)

theorem scan_append (s : Scan) (cs ds : List Char) : scan s (cs ++ ds) = scan (scan s cs) ds :=
  List.foldl_append

/-! ## Segments -/

theorem scan_item (i : Item) :
    scan ⟨ws, w, .double⟩ i.spell = ⟨ws, w ++ String.ofList i.meaning, .double⟩ := by
  cases i with
  | raw c hc => simp [scan, Scan.step, Scan.take, Item.spell, Item.meaning, hc]
  | escaped c hc => simp [scan, Scan.step, Scan.take, Item.spell, Item.meaning, hc]
  | joined => simp [scan, Scan.step, Item.spell, Item.meaning]

theorem scan_items (is : List Item) :
    scan ⟨ws, w, .double⟩ (is.flatMap Item.spell) =
      ⟨ws, w ++ String.ofList (is.flatMap Item.meaning), .double⟩ := by
  induction is generalizing w with
  | nil => simp [scan]
  | cons i is ih =>
    rw [List.flatMap_cons, scan_append, scan_item, ih, List.flatMap_cons, String.ofList_append,
      String.append_assoc]

theorem scan_single (cs : List Quotable) :
    scan ⟨ws, w, .single⟩ cs.unattach = ⟨ws, w ++ String.ofList cs.unattach, .single⟩ := by
  induction cs generalizing w with
  | nil => simp [scan]
  | cons c cs ih =>
    have hc : c.1 ≠ '\'' := c.2
    simp only [List.unattach_cons, scan, List.foldl_cons, Scan.step, hc, if_false, Scan.take]
    rw [show List.foldl Scan.step _ cs.unattach = scan _ cs.unattach from rfl, ih]
    simp [← String.toList_inj]

theorem scan_segment (a : Segment) :
    scan ⟨ws, w, .bare⟩ a.spell = ⟨ws, w ++ String.ofList a.meaning, .bare⟩ := by
  cases a with
  | bare c hc =>
    obtain ⟨hb, hsingle, hdouble, hslash⟩ := hc
    simp [scan, Scan.step, Scan.take, Segment.spell, Segment.meaning, hb, hsingle, hdouble, hslash]
  | escaped c => simp [scan, Scan.step, Scan.take, Segment.spell, Segment.meaning]
  | single cs =>
    have hopen : scan ⟨ws, w, .bare⟩ ['\''] = ⟨ws, w, .single⟩ := rfl
    have hclose (v : String) : scan ⟨ws, v, .single⟩ ['\''] = ⟨ws, v, .bare⟩ := rfl
    rw [Segment.spell, ← List.singleton_append, List.append_assoc, scan_append, hopen, scan_append,
      scan_single, hclose, Segment.meaning]
  | double is =>
    have hopen : scan ⟨ws, w, .bare⟩ ['"'] = ⟨ws, w, .double⟩ := rfl
    have hclose (v : String) : scan ⟨ws, v, .double⟩ ['"'] = ⟨ws, v, .bare⟩ := rfl
    rw [Segment.spell, ← List.singleton_append, List.append_assoc, scan_append, hopen, scan_append,
      scan_items, hclose, Segment.meaning]

theorem scan_segments (ss : List Segment) :
    scan ⟨ws, w, .bare⟩ (ss.flatMap Segment.spell) =
      ⟨ws, w ++ String.ofList (ss.flatMap Segment.meaning), .bare⟩ := by
  induction ss generalizing w with
  | nil => simp [scan]
  | cons a ss ih =>
    rw [List.flatMap_cons, scan_append, scan_segment, ih, List.flatMap_cons, String.ofList_append,
      String.append_assoc]

/-! ## Ends of words -/

def counted (words : List String) : List String := words.filter (· ≠ "")

theorem cut_eq (mode : Mode) :
    (Scan.mk ws w mode).cut = ⟨ws ++ (counted [w]).toArray, "", mode⟩ := by
  unfold Scan.cut counted
  by_cases hw : w = ""
  · simp [hw]
  · simp [hw, String.isEmpty_iff]

theorem finish_eq {mode : Mode} (hmode : mode ≠ .doubleEscaped) :
    (Scan.mk ws w mode).finish = ws.toList ++ counted [w] := by
  simp [Scan.finish, hmode, cut_eq]

theorem blank_ne (b : Blank) {c : Char} (hc : isBlank c = false) : b.1 ≠ c := by
  intro h
  rw [← h, b.2] at hc
  cases hc

theorem step_blank (b : Blank) :
    (Scan.mk ws w .bare).step b.1 = ⟨ws ++ (counted [w]).toArray, "", .bare⟩ := by
  have hslash : b.1 ≠ '\\' := blank_ne b (by decide)
  have hsingle : b.1 ≠ '\'' := blank_ne b (by decide)
  have hdouble : b.1 ≠ '"' := blank_ne b (by decide)
  simp only [Scan.step, hslash, hsingle, hdouble, b.2, if_false, if_true]
  exact cut_eq ws w .bare

theorem scan_blanks (b : Blank) (bs : List Blank) :
    scan ⟨ws, w, .bare⟩ (b :: bs).unattach = ⟨ws ++ (counted [w]).toArray, "", .bare⟩ := by
  induction bs generalizing ws w b with
  | nil => exact step_blank ws w b
  | cons c bs ih =>
    have hstep : scan ⟨ws, w, .bare⟩ [b.1] = ⟨ws ++ (counted [w]).toArray, "", .bare⟩ :=
      step_blank ws w b
    rw [List.unattach_cons, ← List.singleton_append, scan_append, hstep, ih]
    simp [counted]

theorem finish_fragment (f : Fragment) :
    (scan ⟨ws, w, .bare⟩ f.spell).finish =
      ws.toList ++ counted [w ++ String.ofList f.meaning] := by
  cases f with
  | backslash =>
    have hopen : scan ⟨ws, w, .bare⟩ ['\\'] = ⟨ws, w, .escaped⟩ := rfl
    rw [Fragment.spell, hopen, finish_eq _ _ (by decide)]
    simp [Fragment.meaning]
  | single cs =>
    have hopen : scan ⟨ws, w, .bare⟩ ['\''] = ⟨ws, w, .single⟩ := rfl
    rw [Fragment.spell, ← List.singleton_append, scan_append, hopen, scan_single,
      finish_eq _ _ (by decide), Fragment.meaning]
  | double is slash =>
    have hopen : scan ⟨ws, w, .bare⟩ ['"'] = ⟨ws, w, .double⟩ := rfl
    have hslash (v : String) : scan ⟨ws, v, .double⟩ ['\\'] = ⟨ws, v, .doubleEscaped⟩ := rfl
    rw [Fragment.spell, ← List.singleton_append, List.append_assoc, scan_append, hopen, scan_append,
      scan_items, Fragment.meaning]
    cases slash with
    | false => simp [scan, finish_eq]
    | true =>
      simp only [if_true, hslash, Scan.finish, Scan.take, cut_eq]
      simp [String.push_eq_append, String.append_assoc]

/-! ## Lines -/

theorem scan_word (v : Word) :
    scan ⟨ws, "", .bare⟩ v.spell = ⟨ws, v.meaning, .bare⟩ := by
  rw [Word.spell, scan_segments, String.empty_append, Word.meaning]

theorem finish_body (b : Body) :
    (scan ⟨ws, "", .bare⟩ b.spell).finish = ws.toList ++ counted b.meanings := by
  induction b generalizing ws with
  | last v after =>
    rw [Body.spell, scan_append, scan_word]
    cases after with
    | nil => exact finish_eq ws v.meaning (by decide)
    | cons b bs =>
      rw [scan_blanks, finish_eq _ _ (by decide)]
      simp [counted, Body.meanings]
  | cut ss f =>
    rw [Body.spell, scan_append, scan_segments, finish_fragment, Body.meanings,
      String.ofList_append, String.empty_append]
  | more v b bs body ih =>
    rw [Body.spell, List.append_assoc, scan_append, scan_word, scan_append, scan_blanks, ih]
    simp only [counted, Body.meanings, Array.toList_append, List.append_assoc]
    rw [← List.filter_append, List.singleton_append]

theorem scan_before (bs : List Blank) : scan {} bs.unattach = {} := by
  cases bs with
  | nil => rfl
  | cons b bs => exact scan_blanks #[] "" b bs

/-- The words of a line are what the words of its layout stand for, but for the empty ones. -/
theorem words_text (l : Layout) : words l.text = counted l.meanings := by
  obtain ⟨before, body?⟩ := l
  rw [words, Layout.text, String.toList_ofList, Layout.spell, scan_append, scan_before]
  cases body? with
  | none => rfl
  | some b => exact finish_body #[] b

/-- Every line has exactly one layout. Its words are what the words of the layout stand for, but for
the empty ones. -/
theorem reading_unique (line : String) :
    ∃ l : Layout, (∀ k : Layout, k.text = line ↔ k = l) ∧
      words line = l.meanings.filter (· ≠ "") := by
  obtain ⟨l, hl⟩ := layout_unique line
  refine ⟨l, hl, ?_⟩
  rw [← (hl l).mpr rfl]
  exact words_text l

end CommandShell.Line
