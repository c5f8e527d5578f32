import CommandShell.Proofs.Disk.Opening
import CommandShell.Proofs.File.Stance

/-!
# Files that are left alone

To open a path and to write there is to leave every file alone that is not the one of the path. So a
sink leaves alone what its path does not name, whatever is done with it.
-/

namespace CommandShell

namespace Disk

/-- No file was created, emptied or changed but those of some paths, and no path lost its node. -/
structure Spares (among : String → Prop) (cwd : Ino) (d d' : Disk) : Prop where
  sound : d'.Sound
  names : d.SameNames d'
  places : ∀ {dir path i}, d.place .use dir path = .ok (.found i) →
    d'.place .use dir path = .ok (.found i)
  files : ∀ dir path, (∀ target, among target → d.sameFile cwd target dir path = false) →
    d'.fileAt? dir path = d.fileAt? dir path

variable {among : String → Prop} {cwd : Ino} {d d' d'' : Disk}

theorem spares_refl (hs : d.Sound) : d.Spares among cwd d :=
  ⟨hs, fun _ _ _ _ => rfl, id, fun _ _ _ => rfl⟩

theorem Spares.trans (h : d.Spares among cwd d') (h' : d'.Spares among cwd d'') :
    d.Spares among cwd d'' where
  sound := h'.sound
  names := h.names.trans h'.names
  places := fun hp => h'.places (h.places hp)
  files := by
    intro dir path hother
    rw [h'.files dir path fun target ht => (h.names _ _ _ _).trans (hother target ht),
      h.files dir path hother]

theorem Preserves.spares (h : d.Preserves d') {path : String} {p : Place} (hamong : among path)
    (hp : d.place .use cwd path = .ok p)
    (hfiles : ∀ dir path', d.place .use dir path' ≠ .ok p →
      d'.fileAt? dir path' = d.fileAt? dir path') : d.Spares among cwd d' where
  sound := h.sound
  names := h.names
  places := h.places
  files := by
    refine fun dir path' hother => hfiles dir path' fun hp' => ?_
    have hsame := sameFile_iff.mpr ⟨p, hp, hp'⟩
    rw [hother path hamong] at hsame
    cases hsame

theorem Changes.spares {i : Ino} {path : String} {content : Bytes} (h : d.Changes d' i content)
    (hs : d.Sound) (hamong : among path) (hp : d.place .use cwd path = .ok (.found i)) :
    d.Spares among cwd d' :=
  (h.preserves hs).spares hamong hp fun _ _ => h.fileAt?_other

theorem spares_open {path : String} {mode : OpenMode} {i : Ino} (hs : d.Sound)
    (hamong : among path) (h : d.openForWriting cwd path mode = .ok (i, d')) :
    d.Spares among cwd d' ∧ d'.place .use cwd path = .ok (.found i) := by
  cases open_ways h with
  | created hplace hdir hfree =>
    have hc := create_creates hdir hfree (show Right.write.isIn 0o644 = true by decide)
    have hp := place_use hplace
    refine ⟨(hc.preserves hs).spares hamong hp fun _ _ => hc.fileAt?_other hs, ?_⟩
    rw [hc.adds.place_ok hp, Place.filled, if_pos rfl]
  | @reopened _ rights content hplace hf =>
    have hc := setNode_changes hf (start mode (some content))
    have hp := place_use hplace
    exact ⟨hc.spares hs hamong hp, (hc.tree.place _ _ _).trans hp⟩
  | device hplace _ => exact ⟨spares_refl hs, place_use hplace⟩

theorem spares_writeAt {path : String} {i : Ino} {offset : Nat} {bytes : Bytes} (hs : d.Sound)
    (hamong : among path) (hp : d.place .use cwd path = .ok (.found i))
    (h : d.writeAt i offset bytes = .ok d') : d.Spares among cwd d' := by
  rcases writeAt_ok h with ⟨content, mode, hn, rfl⟩ | rfl
  · exact (setNode_changes (file?_eq_some.mpr hn) _).spares hs hamong hp
  · exact spares_refl hs

end Disk

variable {among : String → Prop} {cwd : Ino}

theorem Handle.works_spares {a b : Handle × Disk} (h : Works a b) (hs : a.2.Sound) {path : String}
    (hamong : among path) (hp : a.2.place .use cwd path = .ok (.found a.1.node)) :
    a.2.Spares among cwd b.2 := by
  induction h with
  | rests => exact Disk.spares_refl hs
  | stores _ _ _ ih => exact ih
  | @emits b bytes hworks ih =>
    obtain ⟨h, d⟩ := b
    have hnode : h.node = a.1.node := (works_stays hworks).1
    have hp' : d.place .use cwd path = .ok (.found h.node) := hnode ▸ ih.places hp
    rw [emit_eq]
    cases hw : d.writeAt h.node (h.position d) bytes with
    | ok d' => exact ih.trans (Disk.spares_writeAt ih.sound hamong hp' hw)
    | error e => exact ih

namespace Sink

def Sticks (among : String → Prop) (cwd : Ino) (s : Sink) (d : Disk) : Prop :=
  ∀ h, s.outlet = .file h →
    ∃ path, among path ∧ d.place .use cwd path = .ok (.found h.node)

theorem sticks_spares {s : Sink} {d d' : Disk} (h : s.Sticks among cwd d)
    (hd : d.Spares among cwd d') : s.Sticks among cwd d' := by
  intro handle ho
  obtain ⟨path, hamong, hp⟩ := h handle ho
  exact ⟨path, hamong, hd.places hp⟩

theorem does_spares {s s' : Sink} {m m' : Machine} {texts : List String}
    (h : s.Does m texts s' m') (hs : m.disk.Sound) (hstick : s.Sticks among cwd m.disk) :
    m.disk.Spares among cwd m'.disk ∧ s'.Sticks among cwd m'.disk := by
  have hspares : m.disk.Spares among cwd m'.disk := by
    cases h with
    | prints =>
      cases s.stream <;> exact Disk.spares_refl hs
    | works closed ho hopen hworks =>
      obtain ⟨path, hamong, hp⟩ := hstick _ ho
      exact Handle.works_spares hworks hs hamong hp
    | _ => exact Disk.spares_refl hs
  refine ⟨hspares, fun h' ho' => ?_⟩
  obtain ⟨h₀, ho, hnode⟩ := (does_stays h).1.outlet h' ho'
  rw [← hnode]
  exact sticks_spares hstick hspares h₀ ho

theorem ofTarget_spares {stream : Stream} {t : Target} {s : Sink} {m m' : Machine}
    (hs : m.disk.Sound) (hamong : ∀ path, t.path? = some path → among path)
    (h : ofTarget stream t m = .ok (s, m')) :
    m.disk.Spares among m.cwd m'.disk ∧ s.Sticks among m.cwd m'.disk := by
  unfold ofTarget toFile at h
  split at h
  · cases h
    exact ⟨Disk.spares_refl hs, by rintro _ ⟨⟩⟩
  · next path hp =>
    split at h
    · cases h
    · split at h
      · next handle disk ho =>
        cases h
        obtain ⟨i, hopen, rfl⟩ := Handle.openAt_ok ho
        obtain ⟨hspares, hplace⟩ := Disk.spares_open hs (hamong path hp) hopen
        refine ⟨hspares, ?_⟩
        rintro _ ⟨⟩
        exact ⟨path, hamong path hp, hplace⟩
      · cases h

end Sink

end CommandShell
