import CommandShell.Proofs.Line.Code
import CommandShell.Proofs.Line.Layout

/-! # Every line has exactly one layout -/

namespace CommandShell.Line

/-! ## Blanks -/

def Starts (t : List Char) : Prop := ∃ c r, t = c :: r ∧ isBlank c = false

theorem starts_append {t r : List Char} (h : Starts t) : Starts (t ++ r) := by
  obtain ⟨c, t, rfl, hc⟩ := h
  exact ⟨c, t ++ r, rfl, hc⟩

theorem not_starts_blank (b : Blank) (r : List Char) : ¬ Starts (b.1 :: r) := by
  rintro ⟨c, t, h, hc⟩
  rw [← (List.cons.inj h).1, b.2] at hc
  cases hc

theorem not_starts_blanks (bs : List Blank) : ¬ Starts bs.unattach := by
  cases bs with
  | nil => rintro ⟨c, r, ⟨⟩, -⟩
  | cons b bs => exact not_starts_blank b _

def blanks : Code Blank := Code.letters (isBlank · = true)

theorem blanks_text (bs : List Blank) : blanks.text bs = bs.unattach := Code.letters_text _ bs

theorem blanks_stops_iff (t : List Char) : blanks.Stops t ↔ t = [] ∨ Starts t := by
  constructor
  · intro h
    cases t with
    | nil => exact Or.inl rfl
    | cons c r => exact Or.inr ⟨c, r, rfl, by simpa using h c r rfl⟩
  · rintro (rfl | ⟨c, r, rfl, hc⟩)
    · rintro _ _ ⟨⟩
    · rintro _ _ ⟨⟩
      simp [hc]

theorem blanks_unique {as bs : List Blank} {r s : List Char} (hr : r = [] ∨ Starts r)
    (hs : s = [] ∨ Starts s) (h : as.unattach ++ r = bs.unattach ++ s) : as = bs ∧ r = s := by
  rw [← blanks_text, ← blanks_text] at h
  exact blanks.cut_unique ((blanks_stops_iff r).mpr hr) ((blanks_stops_iff s).mpr hs) h

/-! ## Between double quotes -/

/-- Items end at a quote, at the end of the line, or at a backslash that ends the line. -/
def Item.Stops (t : List Char) : Prop := t = [] ∨ t = ['\\'] ∨ ∃ r, t = '"' :: r

theorem item_inj {a b : Item} {r s : List Char} (h : a.spell ++ r = b.spell ++ s) :
    a = b ∧ r = s := by
  cases a <;> cases b <;> grind [Item.spell]

theorem item_not_stops (a : Item) (r : List Char) : ¬ Item.Stops (a.spell ++ r) := by
  cases a <;> simp_all [Item.Stops, Item.spell]

theorem item_cover (t : List Char) : Item.Stops t ∨ ∃ (a : Item) (r : List Char), t = a.spell ++ r := by
  match t with
  | [] => left; exact Or.inl rfl
  | c :: r =>
    by_cases hq : c = '"'
    · left; exact Or.inr (Or.inr ⟨r, by rw [hq]⟩)
    by_cases hs : c = '\\'
    · subst hs
      match r with
      | [] => left; exact Or.inr (Or.inl rfl)
      | d :: r =>
        right
        by_cases hn : d = '\n'
        · exact ⟨.joined, r, by rw [hn]; rfl⟩
        · exact ⟨.escaped d hn, r, rfl⟩
    · right; exact ⟨.raw c ⟨hq, hs⟩, r, rfl⟩

def items : Code Item where
  spell := Item.spell
  Stops := Item.Stops
  spell_ne_nil a := by cases a <;> simp [Item.spell]
  inj := item_inj
  not_stops := item_not_stops
  cover := item_cover

/-! ## Within a word -/

def quotables : Code Quotable := Code.letters (· ≠ '\'')

theorem quotables_text (cs : List Quotable) : quotables.text cs = cs.unattach :=
  Code.letters_text _ cs

theorem quotables_stops_nil : quotables.Stops [] := by
  rintro _ _ ⟨⟩

theorem quotables_stops_quote (r : List Char) : quotables.Stops ('\'' :: r) := by
  rintro _ _ ⟨⟩
  simp

def Segment.Stops (t : List Char) : Prop :=
  t = [] ∨ (∃ (b : Blank) (r : List Char), t = b.1 :: r) ∨ ∃ f : Fragment, t = f.spell

theorem double_inj {is js : List Item} {r s : List Char}
    (h : is.flatMap Item.spell ++ '"' :: r = js.flatMap Item.spell ++ '"' :: s) :
    is = js ∧ r = s := by
  obtain ⟨rfl, hr⟩ := items.cut_unique (Or.inr (Or.inr ⟨r, rfl⟩)) (Or.inr (Or.inr ⟨s, rfl⟩)) h
  exact ⟨rfl, (List.cons.inj hr).2⟩

theorem single_inj {cs ds : List Quotable} {r s : List Char}
    (h : cs.unattach ++ '\'' :: r = ds.unattach ++ '\'' :: s) : cs = ds ∧ r = s := by
  rw [← quotables_text, ← quotables_text] at h
  obtain ⟨rfl, hr⟩ := quotables.cut_unique (quotables_stops_quote r) (quotables_stops_quote s) h
  exact ⟨rfl, (List.cons.inj hr).2⟩

theorem segment_inj {a b : Segment} {r s : List Char} (h : a.spell ++ r = b.spell ++ s) :
    a = b ∧ r = s := by
  cases a with
  | bare c hc =>
    obtain ⟨-, hsingle, hdouble, hslash⟩ := id hc
    cases b <;> simp_all [Segment.spell]
  | escaped c =>
    cases b with
    | bare d hd => exact absurd (List.cons.inj h).1.symm hd.2.2.2
    | _ => simp_all [Segment.spell]
  | single cs =>
    cases b with
    | single ds =>
      simp only [Segment.spell, List.cons_append, List.append_assoc, List.cons.injEq, true_and,
        List.nil_append] at h
      obtain ⟨rfl, hr⟩ := single_inj h
      exact ⟨rfl, hr⟩
    | _ => grind [Segment.spell, IsPlain]
  | double is =>
    cases b with
    | double js =>
      simp only [Segment.spell, List.cons_append, List.append_assoc, List.cons.injEq, true_and,
        List.nil_append] at h
      obtain ⟨rfl, hr⟩ := double_inj h
      exact ⟨rfl, hr⟩
    | _ => grind [Segment.spell, IsPlain]

theorem single_ne_open {cs ds : List Quotable} {r : List Char} :
    cs.unattach ++ '\'' :: r ≠ ds.unattach := by
  intro h
  have hmem : '\'' ∈ ds.unattach := by rw [← h]; simp
  obtain ⟨hd, -⟩ := List.mem_unattach.mp hmem
  exact hd rfl

theorem open_stops (slash : Bool) : Item.Stops (if slash then ['\\'] else []) := by
  cases slash
  · exact Or.inl rfl
  · exact Or.inr (Or.inl rfl)

theorem double_ne_open {is js : List Item} {slash : Bool} {r : List Char} :
    is.flatMap Item.spell ++ '"' :: r ≠ js.flatMap Item.spell ++ if slash then ['\\'] else [] := by
  intro h
  have := (items.cut_unique (Or.inr (Or.inr ⟨r, rfl⟩)) (open_stops slash) h).2
  cases slash <;> simp at this

theorem segment_starts (a : Segment) : Starts a.spell := by
  cases a with
  | bare c hc => exact ⟨c, [], rfl, hc.1⟩
  | _ => exact ⟨_, _, rfl, by decide⟩

theorem fragment_starts (f : Fragment) : Starts f.spell := by
  cases f <;> exact ⟨_, _, rfl, by decide⟩

theorem segment_not_stops (a : Segment) (r : List Char) : ¬ Segment.Stops (a.spell ++ r) := by
  have hstart : Starts (a.spell ++ r) := starts_append (segment_starts a)
  rintro (h | ⟨b, t, h⟩ | ⟨f, h⟩)
  · obtain ⟨c, t, hc, -⟩ := hstart
    rw [hc] at h
    cases h
  · exact not_starts_blank b t (h ▸ hstart)
  · cases a with
    | bare c hc =>
      obtain ⟨-, hsingle, hdouble, hslash⟩ := id hc
      cases f <;> simp_all [Segment.spell, Fragment.spell]
    | escaped c => cases f <;> grind [Segment.spell, Fragment.spell]
    | single cs =>
      cases f with
      | single ds =>
        simp only [Segment.spell, Fragment.spell, List.cons_append, List.append_assoc,
          List.cons.injEq, true_and, List.nil_append] at h
        exact single_ne_open h
      | _ => grind [Segment.spell, Fragment.spell]
    | double is =>
      cases f with
      | double js slash =>
        simp only [Segment.spell, Fragment.spell, List.cons_append, List.append_assoc,
          List.cons.injEq, true_and, List.nil_append] at h
        exact double_ne_open h
      | _ => grind [Segment.spell, Fragment.spell]

theorem segment_cover (t : List Char) :
    Segment.Stops t ∨ ∃ (a : Segment) (r : List Char), t = a.spell ++ r := by
  cases t with
  | nil => left; exact Or.inl rfl
  | cons c t =>
    by_cases hb : isBlank c = true
    · left; exact Or.inr (Or.inl ⟨⟨c, hb⟩, t, rfl⟩)
    by_cases hslash : c = '\\'
    · subst hslash
      cases t with
      | nil => left; exact Or.inr (Or.inr ⟨.backslash, rfl⟩)
      | cons d t => right; exact ⟨.escaped d, t, rfl⟩
    by_cases hsingle : c = '\''
    · subst hsingle
      obtain ⟨cs, r, hr, rfl⟩ := quotables.exists_cut t
      rw [quotables_text]
      cases r with
      | nil => left; exact Or.inr (Or.inr ⟨.single cs, by simp [Fragment.spell]⟩)
      | cons d r =>
        have hd : d = '\'' := Decidable.not_not.mp (hr d r rfl)
        right; exact ⟨.single cs, r, by simp [Segment.spell, hd]⟩
    by_cases hdouble : c = '"'
    · subst hdouble
      obtain ⟨is, r, hr, rfl⟩ := items.exists_cut t
      rcases hr with rfl | rfl | ⟨r, rfl⟩
      · left; exact Or.inr (Or.inr ⟨.double is false, rfl⟩)
      · left; exact Or.inr (Or.inr ⟨.double is true, rfl⟩)
      · right; exact ⟨.double is, r, by simp [Segment.spell, Code.text, items]⟩
    · right; exact ⟨.bare c ⟨by simpa using hb, hsingle, hdouble, hslash⟩, t, rfl⟩

def segments : Code Segment where
  spell := Segment.spell
  Stops := Segment.Stops
  spell_ne_nil a := by cases a <;> simp [Segment.spell]
  inj := segment_inj
  not_stops := segment_not_stops
  cover := segment_cover

theorem fragment_inj {f g : Fragment} (h : f.spell = g.spell) : f = g := by
  cases f with
  | backslash => cases g <;> simp_all [Fragment.spell]
  | single cs =>
    cases g with
    | single ds =>
      have h : quotables.text cs ++ [] = quotables.text ds ++ [] := by
        simpa [Fragment.spell, quotables_text] using h
      rw [(quotables.cut_unique quotables_stops_nil quotables_stops_nil h).1]
    | _ => simp [Fragment.spell] at h
  | double is slash =>
    cases g with
    | double js slash' =>
      have h := items.cut_unique (open_stops slash) (open_stops slash') (List.cons.inj h).2
      obtain ⟨rfl, hs⟩ := h
      cases slash <;> cases slash' <;> simp_all
    | _ => simp [Fragment.spell] at h

/-! ## Lines -/

namespace Body

def first : Body → List Segment
  | last w _ | more w _ _ _ => w.segments
  | cut ss _ => ss

def rest : Body → List Char
  | last _ after => after.unattach
  | cut _ f => f.spell
  | more _ b bs body => b.1 :: (bs.unattach ++ body.spell)

theorem spell_eq (b : Body) : b.spell = segments.text b.first ++ b.rest := by
  cases b with
  | last w after => rfl
  | cut ss f => rfl
  | more w b bs body => simp [spell, first, rest, Word.spell, Code.text, segments]

theorem rest_stops (b : Body) : segments.Stops b.rest := by
  cases b with
  | last w after =>
    cases after with
    | nil => exact Or.inl rfl
    | cons b bs => exact Or.inr (Or.inl ⟨b, _, rfl⟩)
  | cut ss f => exact Or.inr (Or.inr ⟨f, rfl⟩)
  | more w b bs body => exact Or.inr (Or.inl ⟨b, _, rfl⟩)

end Body

theorem segments_start {ss : List Segment} (h : ss ≠ []) (r : List Char) :
    Starts (segments.text ss ++ r) := by
  obtain ⟨a, ss, rfl⟩ := List.exists_cons_of_ne_nil h
  rw [Code.text_cons, List.append_assoc]
  exact starts_append (segment_starts a)

theorem body_starts (b : Body) : Starts b.spell := by
  rw [b.spell_eq]
  cases b with
  | last w after => exact segments_start w.nonempty _
  | cut ss f =>
    cases ss with
    | nil => exact fragment_starts f
    | cons a ss => exact segments_start (List.cons_ne_nil a ss) _
  | more w b bs body => exact segments_start w.nonempty _

theorem body_ne_nil (b : Body) : b.spell ≠ [] := by
  obtain ⟨c, r, hc, -⟩ := body_starts b
  rw [hc]
  exact List.cons_ne_nil c r

theorem word_ext {v w : Word} (h : v.segments = w.segments) : v = w := by
  cases v
  cases w
  cases h
  rfl

theorem body_split {a b : Body} (h : a.spell = b.spell) : a.first = b.first ∧ a.rest = b.rest := by
  rw [a.spell_eq, b.spell_eq] at h
  exact segments.cut_unique a.rest_stops b.rest_stops h

theorem fragment_ne_blanks (f : Fragment) (bs : List Blank) : f.spell ≠ bs.unattach :=
  fun h => not_starts_blanks bs (h ▸ fragment_starts f)

theorem fragment_ne_blank (f : Fragment) (b : Blank) (r : List Char) : f.spell ≠ b.1 :: r :=
  fun h => not_starts_blank b r (h ▸ fragment_starts f)

theorem blanks_ne_more (as bs : List Blank) (body : Body) :
    as.unattach ≠ bs.unattach ++ body.spell := by
  intro h
  have hnil := (blanks_unique (Or.inl rfl) (Or.inr (body_starts body))
    ((List.append_nil as.unattach).trans h)).2
  exact body_ne_nil body hnil.symm

theorem body_inj {a b : Body} (h : a.spell = b.spell) : a = b := by
  -- The word in front is the same, and what is behind it tells whether the row ends, breaks off or
  -- goes on.
  induction a generalizing b with
  | last w after =>
    obtain ⟨hw, hr⟩ := body_split h
    cases b with
    | last w' after' =>
      have hr' : after.unattach ++ [] = after'.unattach ++ [] := by simpa [Body.rest] using hr
      rw [word_ext hw, (blanks_unique (Or.inl rfl) (Or.inl rfl) hr').1]
    | cut ss f => exact absurd hr.symm (fragment_ne_blanks f after)
    | more w' b bs body => exact absurd hr (blanks_ne_more after (b :: bs) body)
  | cut ss f =>
    obtain ⟨hw, hr⟩ := body_split h
    cases b with
    | last w after => exact absurd hr (fragment_ne_blanks f after)
    | cut ss' f' =>
      obtain rfl : ss = ss' := hw
      rw [fragment_inj hr]
    | more w b bs body => exact absurd hr (fragment_ne_blank f b _)
  | more w b bs body ih =>
    obtain ⟨hw, hr⟩ := body_split h
    cases b with
    | last w' after => exact absurd hr.symm (blanks_ne_more after (b :: bs) body)
    | cut ss f => exact absurd hr.symm (fragment_ne_blank f b _)
    | more w' b' bs' body' =>
      have hcut : (b :: bs).unattach ++ body.spell = (b' :: bs').unattach ++ body'.spell := hr
      obtain ⟨hbs, hbody⟩ :=
        blanks_unique (Or.inr (body_starts body)) (Or.inr (body_starts body')) hcut
      obtain ⟨rfl, rfl⟩ := List.cons.inj hbs
      rw [word_ext hw, ih hbody]

theorem exists_body (t : List Char) (h : Starts t) : ∃ b : Body, b.spell = t := by
  obtain ⟨ss, r, hr, ht⟩ := segments.exists_cut t
  have hne (h' : ¬ Starts r) : ss ≠ [] := by
    rintro rfl
    exact h' (by simpa [ht] using h)
  rcases hr with rfl | ⟨b, r', rfl⟩ | ⟨f, rfl⟩
  · have hw : ss ≠ [] := hne (by rintro ⟨_, _, ⟨⟩, -⟩)
    exact ⟨.last ⟨ss, hw⟩ [], by rw [Body.spell_eq]; exact ht.symm⟩
  -- A blank ends the word. What is behind the blanks is shorter, and starts a word if it is there.
  · have hw : ss ≠ [] := hne (not_starts_blank b r')
    obtain ⟨bs, r, hr, hr'⟩ := blanks.exists_cut r'
    rw [blanks_text] at hr'
    rcases (blanks_stops_iff r).mp hr with rfl | hstart
    · refine ⟨.last ⟨ss, hw⟩ (b :: bs), ?_⟩
      rw [Body.spell_eq, ht, hr']
      simp [Body.first, Body.rest]
    · have hlt : r.length < t.length := by
        rw [ht, hr']
        simp only [List.length_append, List.length_cons]
        omega
      obtain ⟨body, hbody⟩ := exists_body r hstart
      refine ⟨.more ⟨ss, hw⟩ b bs body, ?_⟩
      rw [Body.spell_eq, ht, hr', ← hbody]
      rfl
  · exact ⟨.cut ss f, by rw [Body.spell_eq]; exact ht.symm⟩
termination_by t.length

theorem bodyText_stops (b? : Option Body) : bodyText b? = [] ∨ Starts (bodyText b?) := by
  cases b? with
  | none => exact Or.inl rfl
  | some b => exact Or.inr (body_starts b)

theorem bodyText_inj {a? b? : Option Body} (h : bodyText a? = bodyText b?) : a? = b? := by
  cases a? with
  | none =>
    cases b? with
    | none => rfl
    | some b => exact absurd h.symm (body_ne_nil b)
  | some a =>
    cases b? with
    | none => exact absurd h (body_ne_nil a)
    | some b => rw [body_inj h]

theorem layout_inj {l k : Layout} (h : l.spell = k.spell) : l = k := by
  obtain ⟨before, body?⟩ := l
  obtain ⟨before', body?'⟩ := k
  obtain ⟨rfl, hbody⟩ := blanks_unique (bodyText_stops body?) (bodyText_stops body?') h
  rw [bodyText_inj hbody]

theorem exists_layout (t : List Char) : ∃ l : Layout, l.spell = t := by
  obtain ⟨bs, r, hr, rfl⟩ := blanks.exists_cut t
  rw [blanks_text]
  rcases (blanks_stops_iff r).mp hr with rfl | hstart
  · exact ⟨⟨bs, none⟩, rfl⟩
  · obtain ⟨body, rfl⟩ := exists_body r hstart
    exact ⟨⟨bs, some body⟩, rfl⟩

theorem layout_unique (line : String) : ∃ l : Layout, ∀ k : Layout, k.text = line ↔ k = l := by
  obtain ⟨l, hl⟩ := exists_layout line.toList
  have htext : l.text = line := by rw [Layout.text, hl, String.ofList_toList]
  refine ⟨l, fun k => ⟨fun hk => ?_, fun hk => hk ▸ htext⟩⟩
  exact layout_inj (String.ofList_inj.mp (hk.trans htext.symm))

end CommandShell.Line
