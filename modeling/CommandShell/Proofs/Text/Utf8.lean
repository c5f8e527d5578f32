import CommandShell.Text.Utf8
import Mathlib.Data.List.Infix

/-!
# Reading what was written

A text that was encoded is read back as it was, in one piece or in blocks: a character that a block
cuts in two waits for its other bytes.
-/

namespace CommandShell.Utf8

/-! ## The bytes of one character -/

/-- The bytes that a character which is begun still needs, up to its end. -/
inductive Continues (c : Char) : Begun → Bytes → Prop
  | last {p : Begun} {b : UInt8} :
      p.missing = 1 → p.low ≤ b ∧ b ≤ p.high →
      Char.ofNat (p.value * 0x40 + b.toNat % 0x40) = c → Continues c p [b]
  | more {p : Begun} {b : UInt8} {bs : Bytes} :
      p.missing ≠ 1 → p.low ≤ b ∧ b ≤ p.high →
      Continues c ⟨p.bytes ++ [b], p.missing - 1, 0x80, 0xBF, p.value * 0x40 + b.toNat % 0x40⟩ bs →
      Continues c p (b :: bs)

/-- The bytes of a character: one that says it all, or one that announces the others. -/
inductive Spells (c : Char) : Bytes → Prop
  | single {b : UInt8} : start b = .single c → Spells c [b]
  | lead {b : UInt8} {p : Begun} {bs : Bytes} :
      start b = .lead p → p.bytes = [b] → Continues c p bs → Spells c (b :: bs)

theorem toNat_byte {n : Nat} (h : n < 256) : (UInt8.ofNat n).toNat = n := by
  simpa using Nat.mod_eq_of_lt h

theorem byte_within {n : Nat} {low high : UInt8} (hn : n < 256) (hl : low.toNat ≤ n)
    (hh : n ≤ high.toNat) : low ≤ UInt8.ofNat n ∧ UInt8.ofNat n ≤ high := by
  rw [UInt8.le_iff_toNat_le, UInt8.le_iff_toNat_le, toNat_byte hn]
  exact ⟨hl, hh⟩

theorem start_one {n : Nat} (h : n < 0x80) : start (UInt8.ofNat n) = .single (Char.ofNat n) := by
  have hn : (UInt8.ofNat n).toNat = n := toNat_byte (by omega)
  unfold start
  rw [if_pos (by rw [UInt8.lt_iff_toNat_lt, hn]; exact h), hn]

theorem start_two : ∀ n, n < 0x20 → 2 ≤ n →
    start (UInt8.ofNat (n + 0xC0)) = .lead ⟨[UInt8.ofNat (n + 0xC0)], 1, 0x80, 0xBF, n⟩ := by
  decide

theorem start_three : ∀ n, n < 0x10 →
    start (UInt8.ofNat (n + 0xE0)) = .lead ⟨[UInt8.ofNat (n + 0xE0)], 2,
      if n = 0 then 0xA0 else 0x80, if n = 13 then 0x9F else 0xBF, n⟩ := by
  decide

theorem start_four : ∀ n, n < 5 →
    start (UInt8.ofNat (n + 0xF0)) = .lead ⟨[UInt8.ofNat (n + 0xF0)], 3,
      if n = 0 then 0x90 else 0x80, if n = 4 then 0x8F else 0xBF, n⟩ := by
  decide

theorem continues_last {c : Char} {p : Begun} (hm : p.missing = 1) (hv : p.value = c.toNat / 64)
    (hl : p.low.toNat ≤ c.toNat % 64 + 0x80) (hh : c.toNat % 64 + 0x80 ≤ p.high.toNat) :
    Continues c p [UInt8.ofNat (c.toNat % 64 + 0x80)] := by
  have hvalue : p.value * 0x40 + (UInt8.ofNat (c.toNat % 64 + 0x80)).toNat % 0x40 = c.toNat := by
    rw [toNat_byte (by omega), hv]
    omega
  exact .last hm (byte_within (by omega) hl hh) (by rw [hvalue, Char.ofNat_toNat])

theorem continues_more {c : Char} {p : Begun} {v : Nat} {bs : Bytes} (hm : p.missing ≠ 1)
    (hv : p.value = v / 64) (hl : p.low.toNat ≤ v % 64 + 0x80)
    (hh : v % 64 + 0x80 ≤ p.high.toNat)
    (hbs : ∀ bytes, Continues c ⟨bytes, p.missing - 1, 0x80, 0xBF, v⟩ bs) :
    Continues c p (UInt8.ofNat (v % 64 + 0x80) :: bs) := by
  have hvalue : p.value * 0x40 + (UInt8.ofNat (v % 64 + 0x80)).toNat % 0x40 = v := by
    rw [toNat_byte (by omega), hv]
    omega
  refine .more hm (byte_within (by omega) hl hh) ?_
  rw [hvalue]
  exact hbs _

theorem spells (c : Char) : Spells c (String.utf8EncodeChar c) := by
  have hvalid : c.toNat < 0xD800 ∨ 0xDFFF < c.toNat ∧ c.toNat < 0x110000 := c.valid
  have hcode : c.val.toNat = c.toNat := rfl
  unfold String.utf8EncodeChar
  simp only [hcode]
  split
  · have hstart := start_one (show c.toNat < 0x80 by omega)
    rw [Char.ofNat_toNat] at hstart
    exact .single hstart
  · split
    · have hbits : c.toNat / 64 % 0x20 = c.toNat / 64 := by omega
      rw [hbits]
      exact .lead (start_two _ (by omega) (by omega)) rfl
        (continues_last rfl rfl (by simp) (by simp; omega))
    · split
      · have hbits : c.toNat / 4096 % 0x10 = c.toNat / 4096 := by omega
        rw [hbits]
        refine .lead (start_three _ (by omega)) rfl (continues_more (by simp) ?_ ?_ ?_ fun _ =>
          continues_last rfl rfl (by simp) (by simp; omega))
        · simp only
          omega
        · -- A character of three bytes is too large for two, so after 0xE0 some bits are left.
          simp only
          split
          · simp
            omega
          · simp
        · -- No character is a surrogate, so after 0xED some bits are missing.
          simp only
          split <;> simp <;> omega
      · have hbits : c.toNat / 262144 % 8 = c.toNat / 262144 := by omega
        rw [hbits]
        refine .lead (start_four _ (by omega)) rfl (continues_more (by simp) ?_ ?_ ?_ fun _ =>
          continues_more (by simp) ?_ (by simp) (by simp; omega) fun _ =>
            continues_last rfl rfl (by simp) (by simp; omega))
        · simp only
          omega
        · simp only
          split
          · simp
            omega
          · simp
        · simp only
          split <;> simp <;> omega
        · simp only
          omega

/-! ## Reading characters -/

section Read

variable {c : Char} {bs q : Bytes} (pieces : Array Piece)

theorem step_last {p : Begun} {b : UInt8} (hm : p.missing = 1) (hb : p.low ≤ b ∧ b ≤ p.high) :
    Reader.step ⟨pieces, some p⟩ b =
      ⟨pieces.push (.char (Char.ofNat (p.value * 0x40 + b.toNat % 0x40))), none⟩ := by
  simp only [Reader.step, if_pos hb, if_pos hm]

theorem step_more {p : Begun} {b : UInt8} (hm : p.missing ≠ 1) (hb : p.low ≤ b ∧ b ≤ p.high) :
    Reader.step ⟨pieces, some p⟩ b =
      ⟨pieces, some ⟨p.bytes ++ [b], p.missing - 1, 0x80, 0xBF,
        p.value * 0x40 + b.toNat % 0x40⟩⟩ := by
  simp only [Reader.step, if_pos hb, if_neg hm]

theorem continues_read {p : Begun} (h : Continues c p bs) :
    bs.foldl Reader.step ⟨pieces, some p⟩ = ⟨pieces.push (.char c), none⟩ := by
  induction h with
  | last hm hb hc => rw [List.foldl_cons, step_last pieces hm hb, hc, List.foldl_nil]
  | more hm hb _ ih => rw [List.foldl_cons, step_more pieces hm hb, ih]

theorem continues_cut {p : Begun} (h : Continues c p bs) (hq : q <+: bs) (hne : q ≠ bs) :
    ∃ p', q.foldl Reader.step ⟨pieces, some p⟩ = ⟨pieces, some p'⟩ ∧ p'.bytes = p.bytes ++ q := by
  induction h generalizing q with
  | last =>
    rcases List.prefix_cons_iff.mp hq with rfl | ⟨t, rfl, ht⟩
    · exact ⟨_, rfl, (List.append_nil _).symm⟩
    · exact absurd (List.prefix_nil.mp ht ▸ rfl) hne
  | @more p b bs hm hb _ ih =>
    rcases List.prefix_cons_iff.mp hq with rfl | ⟨t, rfl, ht⟩
    · exact ⟨_, rfl, (List.append_nil _).symm⟩
    · obtain ⟨p', hread, hbytes⟩ := ih ht fun h => hne (h ▸ rfl)
      refine ⟨p', ?_, ?_⟩
      · rw [List.foldl_cons, step_more pieces hm hb, hread]
      · rw [hbytes, List.append_assoc, List.singleton_append]

theorem spells_read (h : Spells c bs) :
    bs.foldl Reader.step ⟨pieces, none⟩ = ⟨pieces.push (.char c), none⟩ := by
  cases h with
  | single hs => simp [Reader.step, Reader.first, hs]
  | lead hs _ hrest =>
    rw [List.foldl_cons, ← continues_read pieces hrest]
    simp [Reader.step, Reader.first, hs]

theorem spells_cut (h : Spells c bs) (hq : q <+: bs) (hne : q ≠ bs) (hsome : q ≠ []) :
    ∃ p, q.foldl Reader.step ⟨pieces, none⟩ = ⟨pieces, some p⟩ ∧ p.bytes = q := by
  cases h with
  | single hs =>
    rcases List.prefix_cons_iff.mp hq with rfl | ⟨t, rfl, ht⟩
    · exact absurd rfl hsome
    · exact absurd (List.prefix_nil.mp ht ▸ rfl) hne
  | @lead b p bs hs hp hrest =>
    rcases List.prefix_cons_iff.mp hq with rfl | ⟨t, rfl, ht⟩
    · exact absurd rfl hsome
    · obtain ⟨p', hread, hbytes⟩ := continues_cut pieces hrest ht fun h => hne (h ▸ rfl)
      refine ⟨p', ?_, ?_⟩
      · rw [List.foldl_cons, ← hread]
        simp [Reader.step, Reader.first, hs]
      · rw [hbytes, hp, List.singleton_append]

end Read

def spell (cs : List Char) : Bytes := cs.flatMap String.utf8EncodeChar

theorem spell_cons (c : Char) (cs : List Char) :
    spell (c :: cs) = String.utf8EncodeChar c ++ spell cs := List.flatMap_cons

theorem spell_append (cs ds : List Char) : spell (cs ++ ds) = spell cs ++ spell ds :=
  List.flatMap_append

def Waits (cs : List Char) (q : Bytes) : Prop :=
  q = [] ∨ ∃ c rest, cs = c :: rest ∧ q <+: String.utf8EncodeChar c ∧ q ≠ String.utf8EncodeChar c

theorem prefix_spell {cs : List Char} {bytes : Bytes} (h : bytes <+: spell cs) :
    ∃ before after q, cs = before ++ after ∧ bytes = spell before ++ q ∧ Waits after q := by
  induction cs generalizing bytes with
  | nil => exact ⟨[], [], [], rfl, List.prefix_nil.mp h, Or.inl rfl⟩
  | cons c cs ih =>
    rw [spell_cons] at h
    by_cases hcut : bytes <+: String.utf8EncodeChar c ∧ bytes ≠ String.utf8EncodeChar c
    · exact ⟨[], c :: cs, bytes, rfl, rfl, Or.inr ⟨c, cs, rfl, hcut⟩⟩
    · obtain ⟨bytes', rfl⟩ : String.utf8EncodeChar c <+: bytes := by
        rcases List.prefix_or_prefix_of_prefix h (List.prefix_append _ (spell cs)) with hq | hq
        · have hall : bytes = String.utf8EncodeChar c :=
            Decidable.byContradiction fun hne => hcut ⟨hq, hne⟩
          exact hall ▸ List.prefix_rfl
        · exact hq
      obtain ⟨before, after, q, rfl, rfl, hw⟩ := ih ((List.prefix_append_right_inj _).mp h)
      exact ⟨c :: before, after, q, rfl, by rw [spell_cons, List.append_assoc], hw⟩

theorem spell_read (cs : List Char) (pieces : Array Piece) :
    (spell cs).foldl Reader.step ⟨pieces, none⟩ =
      ⟨pieces ++ (cs.map Piece.char).toArray, none⟩ := by
  induction cs generalizing pieces with
  | nil => simp [spell]
  | cons c cs ih =>
    rw [spell_cons, List.foldl_append, spells_read pieces (spells c), ih]
    simp

theorem read_waits (before : List Char) {after : List Char} {q : Bytes} (hw : Waits after q) :
    (read (spell before ++ q)).pieces.toList = before.map .char ∧
      (q = [] ∧ (read (spell before ++ q)).begun = none ∨
        q ≠ [] ∧ ∃ p, (read (spell before ++ q)).begun = some p ∧ p.bytes = q) := by
  have hread : read (spell before ++ q) =
      q.foldl Reader.step ⟨(before.map Piece.char).toArray, none⟩ := by
    rw [read, List.foldl_append, spell_read]
    simp
  rw [hread]
  by_cases hq : q = []
  · subst hq
    exact ⟨rfl, Or.inl ⟨rfl, rfl⟩⟩
  · obtain ⟨c, rest, -, hprefix, hne⟩ := hw.resolve_left hq
    obtain ⟨p, hcut, hbytes⟩ := spells_cut _ (spells c) hprefix hne hq
    rw [hcut]
    exact ⟨rfl, Or.inr ⟨hq, p, rfl, hbytes⟩⟩

/-! ## Blocks -/

theorem surrogate_start : start 0xED = .lead ⟨[0xED], 2, 0x80, 0x9F, 13⟩ := by decide

theorem not_surrogate {cs : List Char} {q : Bytes} (h : q <+: spell cs) :
    isCutSurrogate q = false := by
  unfold isCutSurrogate
  split
  · next b =>
    cases cs with
    | nil => cases List.prefix_nil.mp h
    | cons c cs =>
      have hc := spells c
      rw [spell_cons] at h
      generalize String.utf8EncodeChar c = bytes at h hc
      have hhigh : b ≤ 0x9F := by
        rcases hc with hs | ⟨hs, -, hrest⟩
        all_goals
          obtain ⟨rfl, hnext⟩ := List.cons_prefix_cons.mp h
          rw [surrogate_start] at hs
          cases hs
        rcases hrest with ⟨-, hb, -⟩ | ⟨-, hb, -⟩
        all_goals
          obtain ⟨rfl, -⟩ := List.cons_prefix_cons.mp hnext
          exact hb.2
      rw [UInt8.le_iff_toNat_le] at hhigh
      simp only [Bool.and_eq_false_iff, decide_eq_false_iff_not, UInt8.le_iff_toNat_le]
      exact Or.inl (by simp at hhigh ⊢; omega)
  · rfl

theorem readBlock_waits {before after : List Char} {q : Bytes} (hw : Waits after q)
    (hq : q <+: spell after) : readBlock (spell before ++ q) = (before.map .char, q) := by
  have hall : spell before ++ q <+: spell (before ++ after) := by
    rw [spell_append]
    exact (List.prefix_append_right_inj _).mpr hq
  obtain ⟨hpieces, hbegun⟩ := read_waits before hw
  generalize spell before ++ q = bytes at hall hpieces hbegun
  have hcut : (isCutSurrogate (bytes.drop (bytes.length - 2)) &&
      (read (bytes.take (bytes.length - 2))).begun.isNone) = false := by
    obtain ⟨before', after', q', hsplit, htake, hw'⟩ :=
      prefix_spell ((List.take_prefix (bytes.length - 2) bytes).trans hall)
    rcases (read_waits before' hw').2 with ⟨rfl, -⟩ | ⟨-, p, hp, -⟩
    · -- The last two bytes come after whole characters.
      have hrest : bytes.drop (bytes.length - 2) <+: spell after' := by
        rw [← List.take_append_drop (bytes.length - 2) bytes, htake, List.append_nil, hsplit,
          spell_append] at hall
        exact (List.prefix_append_right_inj _).mp hall
      rw [not_surrogate hrest, Bool.false_and]
    · rw [htake, hp, Option.isNone_some, Bool.and_false]
  simp only [readBlock, hcut, Bool.false_eq_true, if_false, hpieces]
  rcases hbegun with ⟨rfl, hnone⟩ | ⟨-, p, hsome, rfl⟩
  · rw [hnone]
  · rw [hsome]

theorem characters_chars (position : Nat) (cs : List Char) :
    characters position (cs.map .char) = .ok cs := by
  induction cs generalizing position with
  | nil => rfl
  | cons c cs ih => rw [List.map_cons, characters, ih]; rfl

theorem waits_short {cs : List Char} {q : Bytes} (hw : Waits cs q) (h : q = spell cs) :
    q = [] ∧ cs = [] := by
  rcases hw with rfl | ⟨c, rest, rfl, hprefix, hne⟩
  · cases cs with
    | nil => exact ⟨rfl, rfl⟩
    | cons c rest =>
      rw [spell_cons] at h
      have hc := spells c
      rw [(List.append_eq_nil_iff.mp h.symm).1] at hc
      cases hc
  · rw [spell_cons] at h
    have hlen := hprefix.length_le
    rw [h, List.length_append] at hlen
    have hrest : spell rest = [] := List.length_eq_zero_iff.mp (by omega)
    exact absurd (by rw [h, hrest, List.append_nil]) hne

theorem decodeBlocks_spell {size : Nat} (hsize : 0 < size) (fuel : Nat) {carried bytes : Bytes}
    {cs : List Char} (hw : Waits cs carried) (hall : carried ++ bytes = spell cs)
    (hfuel : bytes.length < fuel) : decodeBlocks size fuel carried bytes = .ok cs := by
  induction fuel generalizing carried bytes cs with
  | zero => exact absurd hfuel (Nat.not_lt_zero _)
  | succ fuel ih =>
    rw [decodeBlocks]
    by_cases hb : bytes = []
    · subst hb
      obtain ⟨rfl, rfl⟩ := waits_short hw (by rw [← hall, List.append_nil])
      rfl
    · have hb' : bytes.isEmpty = false := by simpa using hb
      have htake : carried ++ bytes.take size <+: spell cs := by
        rw [← hall]
        exact (List.prefix_append_right_inj _).mpr (List.take_prefix size bytes)
      obtain ⟨before, after, q, rfl, hsplit, hw'⟩ := prefix_spell htake
      have hrest : q ++ bytes.drop size = spell after := by
        rw [← List.take_append_drop size bytes, ← List.append_assoc, hsplit, List.append_assoc,
          spell_append] at hall
        exact List.append_cancel_left hall
      have hlen : (bytes.drop size).length < fuel := by
        have hpos : 0 < bytes.length := List.length_pos_of_ne_nil hb
        rw [List.length_drop]
        omega
      rw [hb', hsplit, readBlock_waits hw' (hrest ▸ List.prefix_append q _)]
      simp only [Bool.false_eq_true, if_false, characters_chars, ih hw' hrest hlen]
      rfl

theorem decodeFile_encode (text : String) : decodeFile (encode text) = .ok text.toList :=
  decodeBlocks_spell (by decide) _ (Or.inl rfl) (List.nil_append _) (by omega)

end CommandShell.Utf8
