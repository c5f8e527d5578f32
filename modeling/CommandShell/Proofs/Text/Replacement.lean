import CommandShell.Proofs.Text.Utf8

/-!
# Reading what is no text

Bytes that are no text are read with a replacement character in every gap: one for each longest part
that is the start of a character, or that is a single byte. Reading bytes is characterised by that,
whatever the bytes are.
-/

namespace CommandShell.Utf8

def Begins (bytes : Bytes) : Prop := ∃ c, bytes <+: String.utf8EncodeChar c

def IllFormed (bytes : Bytes) : Prop := ∀ c, ¬ String.utf8EncodeChar c <+: bytes

/-- The part of ill-formed bytes that one replacement character stands for: the longest start of a
character, or a single byte where there is none. -/
structure MaximalSubpart (part rest : Bytes) : Prop where
  illFormed : IllFormed (part ++ rest)
  nonempty : part ≠ []
  begins : part.length = 1 ∨ Begins part
  longest : ∀ q, q <+: part ++ rest → Begins q → q.length ≤ part.length

/-- The text of bytes, with a replacement character for every maximal subpart of what is
ill-formed. -/
inductive Replaced : Bytes → List Char → Prop
  | done : Replaced [] []
  | char (c : Char) {rest : Bytes} {cs : List Char} :
      Replaced rest cs → Replaced (String.utf8EncodeChar c ++ rest) (c :: cs)
  | subpart {part rest : Bytes} {cs : List Char} :
      MaximalSubpart part rest → Replaced rest cs → Replaced (part ++ rest) ('\uFFFD' :: cs)

/-! ## What is read as a character is the bytes of one -/

inductive Leads (b : UInt8) : Begun → Prop
  | two : 0xC2 ≤ b.toNat → b.toNat < 0xE0 → Leads b ⟨[b], 1, 0x80, 0xBF, b.toNat % 0x20⟩
  | three {low high : UInt8} :
      0xE0 ≤ b.toNat → b.toNat < 0xF0 → 0x80 ≤ low.toNat → low ≤ high → high.toNat ≤ 0xBF →
      (b.toNat = 0xE0 → 0xA0 ≤ low.toNat) → (b.toNat = 0xED → high.toNat ≤ 0x9F) →
      Leads b ⟨[b], 2, low, high, b.toNat % 0x10⟩
  | four {low high : UInt8} :
      0xF0 ≤ b.toNat → b.toNat < 0xF5 → 0x80 ≤ low.toNat → low ≤ high → high.toNat ≤ 0xBF →
      (b.toNat = 0xF0 → 0x90 ≤ low.toNat) → (b.toNat = 0xF4 → high.toNat ≤ 0x8F) →
      Leads b ⟨[b], 3, low, high, b.toNat % 0x08⟩

theorem start_leads {b : UInt8} {p : Begun} (h : start b = .lead p) : Leads b p := by
  unfold start at h
  rcases ite_eq_iff.mp h with ⟨-, ⟨⟩⟩ | ⟨-, h⟩
  rcases ite_eq_iff.mp h with ⟨-, ⟨⟩⟩ | ⟨h₂, h⟩
  rcases ite_eq_iff.mp h with ⟨h₃, ⟨⟩⟩ | ⟨h₃, h⟩
  · exact .two (Nat.not_lt.mp h₂) h₃
  rcases ite_eq_iff.mp h with ⟨rfl, ⟨⟩⟩ | ⟨h₄, h⟩
  · exact .three (by simp) (by simp) (by simp) (by decide) (by simp) (by simp) (by simp)
  rcases ite_eq_iff.mp h with ⟨rfl, ⟨⟩⟩ | ⟨h₅, h⟩
  · exact .three (by simp) (by simp) (by simp) (by decide) (by simp) (by simp) (by simp)
  rw [← UInt8.toNat_inj] at h₄ h₅
  rcases ite_eq_iff.mp h with ⟨h₆, ⟨⟩⟩ | ⟨h₆, h⟩
  · exact .three (Nat.not_lt.mp h₃) h₆ (by simp) (by decide) (by simp) (absurd · h₄) (absurd · h₅)
  rcases ite_eq_iff.mp h with ⟨rfl, ⟨⟩⟩ | ⟨h₇, h⟩
  · exact .four (by simp) (by simp) (by simp) (by decide) (by simp) (by simp) (by simp)
  rw [← UInt8.toNat_inj] at h₇
  rcases ite_eq_iff.mp h with ⟨h₈, ⟨⟩⟩ | ⟨-, h⟩
  · have hlt : b.toNat < 0xF4 := h₈
    exact .four (Nat.not_lt.mp h₆) (by omega) (by simp) (by decide) (by simp) (absurd · h₇)
      (by omega)
  rcases ite_eq_iff.mp h with ⟨rfl, ⟨⟩⟩ | ⟨-, ⟨⟩⟩
  exact .four (by simp) (by simp) (by simp) (by decide) (by simp) (by simp) (by simp)

theorem start_single {b : UInt8} {c : Char} (h : start b = .single c) :
    b.toNat < 0x80 ∧ c = Char.ofNat b.toNat := by
  unfold start at h
  rcases ite_eq_iff.mp h with ⟨hb, ⟨⟩⟩ | ⟨-, h⟩
  · exact ⟨hb, rfl⟩
  · -- Every other byte is a lead or invalid.
    iterate 8 rcases ite_eq_iff.mp h with ⟨-, ⟨⟩⟩ | ⟨-, h⟩
    cases h

theorem toNat_char {n : Nat} (h : n.isValidChar) : (Char.ofNat n).toNat = n := by
  rw [Char.ofNat, dif_pos h]
  rfl

section Digits

variable {x y z w : Nat}

theorem encode_two (hx : x < 0x20) (hx' : 2 ≤ x) (hy : y < 0x40) :
    String.utf8EncodeChar (Char.ofNat (x * 0x40 + y)) =
      [UInt8.ofNat (x + 0xC0), UInt8.ofNat (y + 0x80)] := by
  have hcode := toNat_char (n := x * 0x40 + y) (Or.inl (by omega))
  rw [Char.toNat] at hcode
  simp only [String.utf8EncodeChar, hcode]
  rw [if_neg (by omega), if_pos (by omega), show (x * 0x40 + y) / 64 % 32 = x by omega,
    show (x * 0x40 + y) % 64 = y by omega]

theorem encode_three (hx : x < 0x10) (hy : y < 0x40) (hz : z < 0x40) (hfirst : x = 0 → 0x20 ≤ y)
    (hsurrogate : x = 13 → y < 0x20) :
    String.utf8EncodeChar (Char.ofNat ((x * 0x40 + y) * 0x40 + z)) =
      [UInt8.ofNat (x + 0xE0), UInt8.ofNat (y + 0x80), UInt8.ofNat (z + 0x80)] := by
  have hcode := toNat_char (n := (x * 0x40 + y) * 0x40 + z) (by unfold Nat.isValidChar; omega)
  rw [Char.toNat] at hcode
  simp only [String.utf8EncodeChar, hcode]
  rw [if_neg (by omega), if_neg (by omega), if_pos (by omega),
    show ((x * 0x40 + y) * 0x40 + z) / 4096 % 16 = x by omega,
    show ((x * 0x40 + y) * 0x40 + z) / 64 % 64 = y by omega,
    show ((x * 0x40 + y) * 0x40 + z) % 64 = z by omega]

theorem encode_four (hx : x < 5) (hy : y < 0x40) (hz : z < 0x40) (hw : w < 0x40)
    (hfirst : x = 0 → 0x10 ≤ y) (hlast : x = 4 → y < 0x10) :
    String.utf8EncodeChar (Char.ofNat (((x * 0x40 + y) * 0x40 + z) * 0x40 + w)) =
      [UInt8.ofNat (x + 0xF0), UInt8.ofNat (y + 0x80), UInt8.ofNat (z + 0x80),
        UInt8.ofNat (w + 0x80)] := by
  have hcode := toNat_char (n := ((x * 0x40 + y) * 0x40 + z) * 0x40 + w)
    (by unfold Nat.isValidChar; omega)
  rw [Char.toNat] at hcode
  simp only [String.utf8EncodeChar, hcode]
  rw [if_neg (by omega), if_neg (by omega), if_neg (by omega),
    show (((x * 0x40 + y) * 0x40 + z) * 0x40 + w) / 262144 % 8 = x by omega,
    show (((x * 0x40 + y) * 0x40 + z) * 0x40 + w) / 4096 % 64 = y by omega,
    show (((x * 0x40 + y) * 0x40 + z) * 0x40 + w) / 64 % 64 = z by omega,
    show (((x * 0x40 + y) * 0x40 + z) * 0x40 + w) % 64 = w by omega]

end Digits

theorem digit_byte {b : UInt8} {low high : Nat} (hl : low ≤ b.toNat) (hh : b.toNat ≤ high)
    (hlow : 0x80 ≤ low) (hhigh : high ≤ 0xBF) :
    b.toNat % 0x40 < 0x40 ∧ low ≤ b.toNat % 0x40 + 0x80 ∧ b.toNat % 0x40 + 0x80 ≤ high ∧
      UInt8.ofNat (b.toNat % 0x40 + 0x80) = b := by
  have hbits : b.toNat % 0x40 + 0x80 = b.toNat := by omega
  rw [hbits, UInt8.ofNat_toNat]
  exact ⟨by omega, hl, hh, rfl⟩

theorem leading_byte {b : UInt8} {bits first : Nat} (h : b.toNat % bits + first = b.toNat) :
    UInt8.ofNat (b.toNat % bits + first) = b := by
  rw [h, UInt8.ofNat_toNat]

section Continues

variable {c : Char} {bytes bs : Bytes} {low high : UInt8} {value : Nat}

theorem continues_ends (h : Continues c ⟨bytes, 1, low, high, value⟩ bs) :
    ∃ b, bs = [b] ∧ low.toNat ≤ b.toNat ∧ b.toNat ≤ high.toNat ∧
      Char.ofNat (value * 0x40 + b.toNat % 0x40) = c := by
  cases h with
  | last _ hb hc => exact ⟨_, rfl, hb.1, hb.2, hc⟩
  | more hm => exact absurd rfl hm

theorem continues_goes {n : Nat} (h : Continues c ⟨bytes, n + 2, low, high, value⟩ bs) :
    ∃ b rest, bs = b :: rest ∧ low.toNat ≤ b.toNat ∧ b.toNat ≤ high.toNat ∧
      Continues c ⟨bytes ++ [b], n + 1, 0x80, 0xBF, value * 0x40 + b.toNat % 0x40⟩ rest := by
  cases h with
  | last hm => cases hm
  | more _ hb hrest => exact ⟨_, _, rfl, hb.1, hb.2, hrest⟩

end Continues

theorem Spells.nonempty {c : Char} {bs : Bytes} (h : Spells c bs) : bs ≠ [] := by
  cases h <;> exact List.cons_ne_nil _ _

theorem spells_bytes {c : Char} {bs : Bytes} (h : Spells c bs) : String.utf8EncodeChar c = bs := by
  cases h with
  | @single b hs =>
    obtain ⟨hb, rfl⟩ := start_single hs
    have hcode := toNat_char (n := b.toNat) (Or.inl (by omega))
    rw [Char.toNat] at hcode
    simp only [String.utf8EncodeChar, hcode]
    rw [if_pos (by omega), UInt8.ofNat_toNat]
  | lead hs _ hrest =>
    cases start_leads hs with
    | two hl hh =>
      obtain ⟨b₁, rfl, hl₁, hh₁, rfl⟩ := continues_ends hrest
      obtain ⟨hd₁, -, -, hb₁⟩ := digit_byte hl₁ hh₁ (by decide) (by decide)
      rw [encode_two (by omega) (by omega) hd₁, hb₁, leading_byte (by omega)]
    | three hl hh hlow _ hhigh hfirst hsurrogate =>
      obtain ⟨b₁, _, rfl, hl₁, hh₁, hrest⟩ := continues_goes hrest
      obtain ⟨b₂, rfl, hl₂, hh₂, rfl⟩ := continues_ends hrest
      obtain ⟨hd₁, hdl, hdh, hb₁⟩ := digit_byte hl₁ hh₁ hlow hhigh
      obtain ⟨hd₂, -, -, hb₂⟩ := digit_byte hl₂ hh₂ (by decide) (by decide)
      rw [encode_three (by omega) hd₁ hd₂ (by omega) (by omega), hb₁, hb₂,
        leading_byte (by omega)]
    | four hl hh hlow _ hhigh hfirst hlast =>
      obtain ⟨b₁, _, rfl, hl₁, hh₁, hrest⟩ := continues_goes hrest
      obtain ⟨b₂, _, rfl, hl₂, hh₂, hrest⟩ := continues_goes hrest
      obtain ⟨b₃, rfl, hl₃, hh₃, rfl⟩ := continues_ends hrest
      obtain ⟨hd₁, hdl, hdh, hb₁⟩ := digit_byte hl₁ hh₁ hlow hhigh
      obtain ⟨hd₂, -, -, hb₂⟩ := digit_byte hl₂ hh₂ (by decide) (by decide)
      obtain ⟨hd₃, -, -, hb₃⟩ := digit_byte hl₃ hh₃ (by decide) (by decide)
      rw [encode_four (by omega) hd₁ hd₂ hd₃ (by omega) (by omega), hb₁, hb₂, hb₃,
        leading_byte (by omega)]

theorem not_within {c c' : Char} (h : String.utf8EncodeChar c' <+: String.utf8EncodeChar c)
    (hne : String.utf8EncodeChar c' ≠ String.utf8EncodeChar c) : False := by
  have hread := spells_read #[] (spells c')
  obtain ⟨p, hcut, -⟩ := spells_cut #[] (spells c) h hne (spells c').nonempty
  rw [hread] at hcut
  cases hcut

/-! ## A character that is begun -/

/-- The state of a reader in the middle of a character, after the bytes of that character. -/
structure Unfinished (p : Begun) : Prop where
  missing : p.missing ≠ 0
  range : p.low ≤ p.high
  nonempty : p.bytes ≠ []
  reads : p.bytes.foldl Reader.step {} = ⟨#[], some p⟩
  completes : ∀ {c bs}, Continues c p bs → Spells c (p.bytes ++ bs)

theorem unfinished_lead {b : UInt8} {p : Begun} (h : start b = .lead p) : Unfinished p := by
  have hreads : Reader.step {} b = ⟨#[], some p⟩ := by
    simp only [Reader.step, Reader.first, h]
  cases start_leads h with
  | two => exact ⟨by simp, by simp, by simp, hreads, .lead h rfl⟩
  | three _ _ _ hr => exact ⟨by simp, hr, by simp, hreads, .lead h rfl⟩
  | four _ _ _ hr => exact ⟨by simp, hr, by simp, hreads, .lead h rfl⟩

theorem exists_continues {p : Begun} (hm : p.missing ≠ 0) (hr : p.low ≤ p.high) :
    ∃ c bs, Continues c p bs := by
  obtain ⟨bytes, missing, low, high, value⟩ := p
  have hlow : low ≤ low ∧ low ≤ high := ⟨UInt8.le_refl low, hr⟩
  induction missing generalizing bytes low high value with
  | zero => exact absurd rfl hm
  | succ n ih =>
    by_cases hn : n = 0
    · subst hn
      exact ⟨_, [low], .last rfl hlow rfl⟩
    · obtain ⟨c, bs, hrest⟩ := ih (bytes ++ [low]) 0x80 0xBF
        (value * 0x40 + low.toNat % 0x40) hn (show (0x80 : UInt8) ≤ 0xBF by decide) (by decide)
      exact ⟨c, low :: bs, .more (by simpa using hn) hlow hrest⟩

namespace Unfinished

variable {p : Begun} (hp : Unfinished p)

include hp

theorem more {b : UInt8} (hm : p.missing ≠ 1) (hb : p.low ≤ b ∧ b ≤ p.high) :
    Unfinished ⟨p.bytes ++ [b], p.missing - 1, 0x80, 0xBF, p.value * 0x40 + b.toNat % 0x40⟩ where
  missing := by
    have hsome := hp.missing
    simp only
    omega
  range := by simp
  nonempty := by simp
  reads := by rw [List.foldl_append, hp.reads, List.foldl_cons, step_more #[] hm hb, List.foldl_nil]
  completes := by
    intro c bs hrest
    rw [List.append_assoc]
    exact hp.completes (.more hm hb hrest)

theorem begins : ∃ c bs, String.utf8EncodeChar c = p.bytes ++ bs ∧ bs ≠ [] := by
  obtain ⟨c, bs, hrest⟩ := exists_continues hp.missing hp.range
  refine ⟨c, bs, spells_bytes (hp.completes hrest), ?_⟩
  cases hrest <;> exact List.cons_ne_nil _ _

theorem longest {rest q : Bytes} (hrest : ∀ b ∈ rest.head?, ¬ (p.low ≤ b ∧ b ≤ p.high))
    (hq : q <+: p.bytes ++ rest) (hbegins : Begins q) : q.length ≤ p.bytes.length := by
  by_contra hlen
  obtain ⟨t, rfl⟩ : p.bytes <+: q :=
    List.prefix_of_prefix_length_le (List.prefix_append _ _) hq (by omega)
  have ht : t <+: rest := (List.prefix_append_right_inj _).mp hq
  cases t with
  | nil => simp at hlen
  | cons b t =>
    obtain ⟨more, rfl⟩ := ht
    have hb : ¬ (p.low ≤ b ∧ b ≤ p.high) := hrest b rfl
    obtain ⟨c, hc⟩ := hbegins
    have hstart : p.bytes ++ [b] <+: String.utf8EncodeChar c :=
      List.IsPrefix.trans ⟨t, by simp⟩ hc
    -- Reading up to the byte finds a flaw, and there is none in the bytes of a character.
    obtain ⟨pieces, hpieces⟩ : ∃ pieces, ((p.bytes ++ [b]).foldl Reader.step {}).pieces.toList =
        .flawed .invalidContinuation p.bytes :: pieces := by
      rw [List.foldl_append, hp.reads]
      simp only [List.foldl_cons, List.foldl_nil, Reader.step, if_neg hb, Reader.first]
      split <;> simp
    by_cases hall : p.bytes ++ [b] = String.utf8EncodeChar c
    · rw [hall, spells_read #[] (spells c)] at hpieces
      simp at hpieces
    · obtain ⟨p', hcut, -⟩ := spells_cut #[] (spells c) hstart hall (by simp)
      rw [hcut] at hpieces
      simp at hpieces

theorem subpart {rest : Bytes} (hrest : ∀ b ∈ rest.head?, ¬ (p.low ≤ b ∧ b ≤ p.high)) :
    MaximalSubpart p.bytes rest := by
  obtain ⟨c, bs, hc, hbs⟩ := hp.begins
  refine ⟨fun c' hc' => ?_, hp.nonempty, Or.inr ⟨c, hc ▸ List.prefix_append _ _⟩,
    fun q hq hbegins => hp.longest hrest hq hbegins⟩
  have hlen := hp.longest hrest hc' ⟨c', List.prefix_rfl⟩
  have hin : String.utf8EncodeChar c' <+: p.bytes :=
    List.prefix_of_prefix_length_le hc' (List.prefix_append _ _) hlen
  have hprefix : String.utf8EncodeChar c' <+: String.utf8EncodeChar c :=
    hc ▸ hin.trans (List.prefix_append _ _)
  have hne : String.utf8EncodeChar c' ≠ String.utf8EncodeChar c := by
    intro heq
    have hlen' := hin.length_le
    rw [heq, hc, List.length_append] at hlen'
    exact hbs (List.length_eq_zero_iff.mp (by omega))
  exact not_within hprefix hne

end Unfinished

/-! ## Every text of replacements is the one that is read -/

def Piece.shown : Piece → Char
  | .char c => c
  | .flawed .. => '\uFFFD'

theorem decodeLossy_eq (bytes : Bytes) : decodeLossy bytes = (pieces bytes).map Piece.shown := rfl

/-- From a reader that may have begun a character, the bytes are read as a text of replacements of
all the bytes since then. -/
def ReadsAs (begun : Option Begun) (bytes all : Bytes) : Prop :=
  ∀ before, ∃ after, (bytes.foldl Reader.step ⟨before, begun⟩).finish = before.toList ++ after ∧
    Replaced all (after.map Piece.shown)

section ReadsAs

variable {begun begun' : Option Begun} {b : UInt8} {bytes all all' : Bytes}

theorem readsAs_next (pieces : List Piece)
    (hstep : ∀ before,
      Reader.step ⟨before, begun⟩ b = ⟨before ++ pieces.toArray, begun'⟩)
    (hall : ∀ cs, Replaced all cs → Replaced all' (pieces.map Piece.shown ++ cs))
    (h : ReadsAs begun' bytes all) : ReadsAs begun (b :: bytes) all' := by
  intro before
  obtain ⟨after, hafter, hreplaced⟩ := h (before ++ pieces.toArray)
  refine ⟨pieces ++ after, ?_, ?_⟩
  · rw [List.foldl_cons, hstep, hafter]
    simp
  · rw [List.map_append]
    exact hall _ hreplaced

theorem readsAs_again {p : Begun} (hp : Unfinished p) (hb : ¬ (p.low ≤ b ∧ b ≤ p.high))
    (h : ReadsAs none (b :: bytes) (b :: bytes)) :
    ReadsAs (some p) (b :: bytes) (p.bytes ++ b :: bytes) := by
  intro before
  obtain ⟨after, hafter, hreplaced⟩ := h (before.push (.flawed .invalidContinuation p.bytes))
  refine ⟨.flawed .invalidContinuation p.bytes :: after, ?_, ?_⟩
  · have hstep : Reader.step ⟨before, some p⟩ b =
        Reader.step ⟨before.push (.flawed .invalidContinuation p.bytes), none⟩ b := by
      simp only [Reader.step, if_neg hb]
    rw [List.foldl_cons, hstep, ← List.foldl_cons, hafter]
    simp
  · refine .subpart (hp.subpart ?_) hreplaced
    rintro _ ⟨⟩
    exact hb

end ReadsAs

theorem invalid_subpart {b : UInt8} (h : start b = .invalid) (rest : Bytes) :
    MaximalSubpart [b] rest := by
  have hfirst : ∀ c q, q <+: b :: rest → q <+: String.utf8EncodeChar c → q = [] := by
    intro c q hq hc
    rcases List.prefix_cons_iff.mp hq with rfl | ⟨t, rfl, -⟩
    · rfl
    · obtain ⟨more, hmore⟩ := hc
      have hspells := spells c
      rw [← hmore, List.cons_append] at hspells
      generalize t ++ more = bytes at hspells
      cases hspells with
      | single hs => cases h.symm.trans hs
      | lead hs => cases h.symm.trans hs
  refine ⟨fun c hc => (spells c).nonempty (hfirst c _ hc List.prefix_rfl), List.cons_ne_nil _ _,
    Or.inl rfl, ?_⟩
  rintro q hq ⟨c, hc⟩
  rw [hfirst c q hq hc]
  exact Nat.zero_le _

theorem readsAs (bytes : Bytes) :
    ReadsAs none bytes bytes ∧ ∀ p, Unfinished p → ReadsAs (some p) bytes (p.bytes ++ bytes) := by
  induction bytes with
  | nil =>
    refine ⟨fun before => ⟨[], by simp [Reader.finish], .done⟩, fun p hp before => ?_⟩
    exact ⟨[.flawed .unexpectedEnd p.bytes], rfl, .subpart (hp.subpart (by simp)) .done⟩
  | cons b bytes ih =>
    obtain ⟨ihNone, ihSome⟩ := ih
    have hnone : ReadsAs none (b :: bytes) (b :: bytes) := by
      cases hs : start b with
      | single c =>
        refine readsAs_next [.char c] (fun before => ?_) (fun cs h => ?_) ihNone
        · simp [Reader.step, Reader.first, hs]
        · have hbytes := spells_bytes (.single hs)
          have hchar := Replaced.char c h
          rwa [hbytes] at hchar
      | lead p =>
        have hbytes : p.bytes ++ bytes = b :: bytes := by
          cases start_leads hs <;> rfl
        have hrest := ihSome p (unfinished_lead hs)
        rw [hbytes] at hrest
        refine readsAs_next [] (fun before => ?_) (fun cs h => h) hrest
        simp [Reader.step, Reader.first, hs]
      | invalid =>
        refine readsAs_next [.flawed .invalidStart [b]] (fun before => ?_) (fun cs h => ?_) ihNone
        · simp [Reader.step, Reader.first, hs]
        · exact .subpart (invalid_subpart hs bytes) h
    refine ⟨hnone, fun p hp => ?_⟩
    by_cases hb : p.low ≤ b ∧ b ≤ p.high
    · by_cases hm : p.missing = 1
      · let c := Char.ofNat (p.value * 0x40 + b.toNat % 0x40)
        have hbytes : String.utf8EncodeChar c = p.bytes ++ [b] :=
          spells_bytes (hp.completes (.last hm hb rfl))
        refine readsAs_next [.char c] (fun before => ?_) (fun cs h => ?_) ihNone
        · rw [step_last before hm hb]
          simp [c]
        · have hchar := Replaced.char c h
          rwa [hbytes, List.append_assoc] at hchar
      · have hmore := ihSome _ (hp.more hm hb)
        rw [List.append_assoc] at hmore
        refine readsAs_next [] (fun before => ?_) (fun cs h => h) hmore
        rw [step_more before hm hb]
        simp
    · exact readsAs_again hp hb hnone

theorem replaced_decodeLossy (bytes : Bytes) : Replaced bytes (decodeLossy bytes) := by
  obtain ⟨after, hafter, hreplaced⟩ := (readsAs bytes).1 #[]
  have hpieces : pieces bytes = after := hafter.trans (List.nil_append after)
  rw [decodeLossy_eq, hpieces]
  exact hreplaced

/-! ## There is one such text -/

theorem encode_injective {c c' : Char}
    (h : String.utf8EncodeChar c = String.utf8EncodeChar c') : c = c' := by
  have hread := spells_read #[] (spells c)
  rw [h, spells_read #[] (spells c')] at hread
  simpa using hread.symm

theorem replaced_cases {bytes : Bytes} {cs : List Char} (h : Replaced bytes cs) :
    bytes = [] ∧ cs = [] ∨
      (∃ c rest ds, bytes = String.utf8EncodeChar c ++ rest ∧ cs = c :: ds ∧ Replaced rest ds) ∨
      ∃ part rest ds, bytes = part ++ rest ∧ cs = '\uFFFD' :: ds ∧ MaximalSubpart part rest ∧
        Replaced rest ds := by
  cases h with
  | done => exact Or.inl ⟨rfl, rfl⟩
  | char c h => exact Or.inr (Or.inl ⟨c, _, _, rfl, rfl, h⟩)
  | subpart hpart h => exact Or.inr (Or.inr ⟨_, _, _, rfl, rfl, hpart, h⟩)

theorem subpart_length_le {part rest part' rest' : Bytes} (h : MaximalSubpart part rest)
    (h' : MaximalSubpart part' rest') (hall : part ++ rest = part' ++ rest') :
    part'.length ≤ part.length := by
  rcases h'.begins with hone | hbegins
  · rw [hone]
    exact List.length_pos_of_ne_nil h.nonempty
  · exact h.longest part' (hall ▸ List.prefix_append _ _) hbegins

theorem subpart_unique {part rest part' rest' : Bytes} (h : MaximalSubpart part rest)
    (h' : MaximalSubpart part' rest') (hall : part ++ rest = part' ++ rest') :
    part = part' ∧ rest = rest' :=
  List.append_inj hall (Nat.le_antisymm (subpart_length_le h' h hall.symm)
    (subpart_length_le h h' hall))

theorem char_unique {c c' : Char} {rest rest' : Bytes}
    (h : String.utf8EncodeChar c ++ rest = String.utf8EncodeChar c' ++ rest') :
    c = c' ∧ rest = rest' := by
  have hin : String.utf8EncodeChar c' <+: String.utf8EncodeChar c ++ rest :=
    h ▸ List.prefix_append _ _
  have hsame : String.utf8EncodeChar c = String.utf8EncodeChar c' := by
    by_contra hne
    rcases List.prefix_or_prefix_of_prefix (List.prefix_append _ rest) hin with hle | hle
    · exact not_within hle hne
    · exact not_within hle (Ne.symm hne)
  rw [hsame] at h
  exact ⟨encode_injective hsame, List.append_cancel_left h⟩

theorem replaced_unique {bytes : Bytes} {cs ds : List Char} (h : Replaced bytes cs)
    (h' : Replaced bytes ds) : cs = ds := by
  induction h generalizing ds with
  | done =>
    rcases replaced_cases h' with ⟨-, rfl⟩ | ⟨c, rest, ds, hnil, -⟩ |
      ⟨part, rest, ds, hnil, -, hp, -⟩
    · rfl
    · exact absurd (List.append_eq_nil_iff.mp hnil.symm).1 (spells c).nonempty
    · exact absurd (List.append_eq_nil_iff.mp hnil.symm).1 hp.nonempty
  | @char c rest cs _ ih =>
    rcases replaced_cases h' with ⟨hnil, -⟩ | ⟨c', rest', ds, hall, rfl, h'⟩ |
      ⟨part, rest', ds, hall, -, hp, -⟩
    · exact absurd (List.append_eq_nil_iff.mp hnil).1 (spells c).nonempty
    · obtain ⟨rfl, rfl⟩ := char_unique hall
      rw [ih h']
    · exact absurd (hall ▸ List.prefix_append _ _) (hp.illFormed c)
  | @subpart part rest cs hp _ ih =>
    rcases replaced_cases h' with ⟨hnil, -⟩ | ⟨c', rest', ds, hall, -, -⟩ |
      ⟨part', rest', ds, hall, rfl, hp', h'⟩
    · exact absurd (List.append_eq_nil_iff.mp hnil).1 hp.nonempty
    · exact absurd (hall ▸ List.prefix_append _ _) (hp.illFormed c')
    · obtain ⟨rfl, rfl⟩ := subpart_unique hp hp' hall
      rw [ih h']

/-- What bytes are read as is the text with a replacement character for every maximal subpart of
what is ill-formed. -/
theorem replaced_iff {bytes : Bytes} {cs : List Char} :
    Replaced bytes cs ↔ decodeLossy bytes = cs :=
  ⟨replaced_unique (replaced_decodeLossy bytes), fun h => h ▸ replaced_decodeLossy bytes⟩

end CommandShell.Utf8
