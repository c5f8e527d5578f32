import CommandShell.Proofs.Text.Replacement

/-!
# Bytes that are a text

Reading loses no byte, so bytes that are read without a flaw are those of the text that was read,
however they are cut into blocks.
-/

namespace CommandShell.Utf8

/-! ## No byte is lost -/

def Piece.bytes : Piece → Bytes
  | .char c => String.utf8EncodeChar c
  | .flawed _ bytes => bytes

def Reader.waiting (r : Reader) : Bytes :=
  match r.begun with
  | none => []
  | some p => p.bytes

structure Reader.Holds (r : Reader) (bytes : Bytes) : Prop where
  kept : r.pieces.toList.flatMap Piece.bytes ++ r.waiting = bytes
  unfinished : ∀ p ∈ r.begun, Unfinished p

section Holds

variable {r : Reader} {bytes : Bytes}

theorem holds_first {pieces : Array Piece}
    (h : pieces.toList.flatMap Piece.bytes = bytes) (b : UInt8) :
    (Reader.first ⟨pieces, none⟩ b).Holds (bytes ++ [b]) := by
  unfold Reader.first
  split
  · next c hs =>
    have hc : String.utf8EncodeChar c = [b] := spells_bytes (.single hs)
    exact ⟨by simp [Reader.waiting, Piece.bytes, h, hc], by simp⟩
  · next p hs =>
    have hp : p.bytes = [b] := by cases start_leads hs <;> rfl
    refine ⟨by simp [Reader.waiting, h, hp], ?_⟩
    rintro _ ⟨⟩
    exact unfinished_lead hs
  · exact ⟨by simp [Reader.waiting, Piece.bytes, h], by simp⟩

theorem holds_step (h : r.Holds bytes) (b : UInt8) : (r.step b).Holds (bytes ++ [b]) := by
  obtain ⟨pieces, _ | p⟩ := r
  · have hkept : pieces.toList.flatMap Piece.bytes = bytes := by
      simpa [Reader.waiting] using h.kept
    exact holds_first hkept b
  · have hp : Unfinished p := h.unfinished p rfl
    have hkept : pieces.toList.flatMap Piece.bytes ++ p.bytes = bytes := h.kept
    by_cases hb : p.low ≤ b ∧ b ≤ p.high
    · by_cases hm : p.missing = 1
      · rw [step_last pieces hm hb]
        have hc := spells_bytes (hp.completes (.last hm hb rfl))
        exact ⟨by simp [Reader.waiting, Piece.bytes, hc, ← hkept], by simp⟩
      · rw [step_more pieces hm hb]
        refine ⟨by simp [Reader.waiting, ← hkept], ?_⟩
        rintro _ ⟨⟩
        exact hp.more hm hb
    · -- The character that is broken off is a piece by now.
      simp only [Reader.step, if_neg hb]
      exact holds_first (by simp [Piece.bytes, ← hkept]) b

theorem holds_foldl (h : r.Holds bytes) (more : Bytes) :
    (more.foldl Reader.step r).Holds (bytes ++ more) := by
  induction more generalizing r bytes with
  | nil => simpa using h
  | cons b more ih =>
    rw [List.foldl_cons, List.append_cons]
    exact ih (holds_step h b)

end Holds

theorem holds_read (bytes : Bytes) : (read bytes).Holds bytes := by
  have hstart : Reader.Holds {} [] := ⟨rfl, by simp⟩
  exact holds_foldl hstart bytes

theorem pieces_bytes (bytes : Bytes) : (pieces bytes).flatMap Piece.bytes = bytes := by
  have hkept := (holds_read bytes).kept
  unfold pieces Reader.finish
  unfold Reader.waiting at hkept
  rw [List.flatMap_append]
  cases hb : (read bytes).begun with
  | none => simpa [hb] using hkept
  | some p => simpa [hb, Piece.bytes] using hkept

theorem readBlock_bytes (bytes : Bytes) :
    (readBlock bytes).1.flatMap Piece.bytes ++ (readBlock bytes).2 = bytes := by
  simp only [readBlock]
  split
  · next h =>
    have hnone : (read (bytes.take (bytes.length - 2))).begun = none :=
      Option.isNone_iff_eq_none.mp (Bool.and_eq_true_iff.mp h).2
    have hkept := (holds_read (bytes.take (bytes.length - 2))).kept
    rw [Reader.waiting, hnone, List.append_nil] at hkept
    rw [hkept, List.take_append_drop]
  · exact (holds_read bytes).kept

/-! ## What is read without a flaw -/

theorem characters_bytes {position : Nat} {pieces : List Piece} {cs : List Char}
    (h : characters position pieces = .ok cs) : pieces.flatMap Piece.bytes = spell cs := by
  induction pieces generalizing position cs with
  | nil =>
    rw [characters] at h
    cases h
    rfl
  | cons piece rest ih =>
    cases piece with
    | flawed flaw bytes =>
      rw [characters] at h
      cases h
    | char c =>
      rw [characters] at h
      cases hrest : characters (position + c.utf8Size) rest with
      | error e =>
        rw [hrest] at h
        cases h
      | ok ds =>
        rw [hrest] at h
        cases h
        rw [List.flatMap_cons, spell_cons, ih hrest, Piece.bytes]

theorem decodeBlocks_bytes {size : Nat} (hsize : 0 < size) (fuel : Nat) {carried bytes : Bytes}
    {cs : List Char} (hfuel : bytes.length < fuel)
    (h : decodeBlocks size fuel carried bytes = .ok cs) : carried ++ bytes = spell cs := by
  induction fuel generalizing carried bytes cs with
  | zero => exact absurd hfuel (Nat.not_lt_zero _)
  | succ fuel ih =>
    rw [decodeBlocks] at h
    by_cases hb : bytes = []
    · subst hb
      have hcs := characters_bytes h
      rw [pieces_bytes] at hcs
      rw [List.append_nil, hcs]
    · have hblock := readBlock_bytes (carried ++ bytes.take size)
      rw [if_neg (by simpa using hb)] at h
      generalize readBlock (carried ++ bytes.take size) = block at h hblock
      obtain ⟨pieces, left⟩ := block
      dsimp only at h hblock
      -- The block has a text and the blocks after it have one.
      rcases hhere : characters 0 pieces with e | here
      · rw [hhere] at h
        cases h
      rcases hrest : decodeBlocks size fuel left (bytes.drop size) with e | rest
      · rw [hhere, hrest] at h
        cases h
      have hcs : here ++ rest = cs := by
        rw [hhere, hrest] at h
        exact Except.ok.inj h
      have hlen : (bytes.drop size).length < fuel := by
        have hpos := List.length_pos_of_ne_nil hb
        rw [List.length_drop]
        omega
      calc carried ++ bytes
          = carried ++ bytes.take size ++ bytes.drop size := by
            rw [List.append_assoc, List.take_append_drop]
        _ = pieces.flatMap Piece.bytes ++ (left ++ bytes.drop size) := by
            rw [← hblock, List.append_assoc]
        _ = spell here ++ spell rest := by rw [characters_bytes hhere, ih hlen hrest]
        _ = spell cs := by rw [← hcs, spell_append]

/-- A file is read as a text exactly when it holds the bytes of that text. -/
theorem decodeFile_ok {bytes : Bytes} {cs : List Char} :
    decodeFile bytes = .ok cs ↔ bytes = spell cs := by
  constructor
  · intro h
    have hall := decodeBlocks_bytes (by decide) (bytes.length + 2) (by omega) h
    rwa [List.nil_append] at hall
  · rintro rfl
    have hread := decodeFile_encode (String.ofList cs)
    rwa [encode, String.toList_ofList] at hread

end CommandShell.Utf8
