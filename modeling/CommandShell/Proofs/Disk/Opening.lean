import CommandShell.Proofs.Disk.Content

/-!
# Opening, case by case

A file that is opened for writing was missing and is created, was there and starts anew or goes on,
or is a device. No other file is changed.
-/

namespace CommandShell

namespace Disk

/-- The ways in which a file is opened for writing, with the node and the disk that come of it. -/
inductive Opening (d : Disk) (cwd : Ino) (path : String) (mode : OpenMode) : Ino → Disk → Prop
  | created {dir parent : Ino} {name : String} {entries : List (String × Ino)} :
      d.place .create cwd path = .ok (.vacant dir name) →
      d.directory? dir = some (parent, entries) → entries.lookup name = none →
      Opening d cwd path mode d.nodes.size (d.create dir name (.regular [] 0o644)).2
  | reopened {i rights : Nat} {content : Bytes} :
      d.place .create cwd path = .ok (.found i) → d.file? i = some (content, rights) →
      Opening d cwd path mode i (d.setNode i (.regular (start mode (some content)) rights))
  | device {i : Ino} {device : Device} :
      d.place .create cwd path = .ok (.found i) → d.node? i = some (.device device) →
      (Kind.device device).IsOpen → Opening d cwd path mode i d

variable {d d' : Disk} {cwd i : Ino} {path : String} {mode : OpenMode}

theorem open_ways (h : d.openForWriting cwd path mode = .ok (i, d')) :
    d.Opening cwd path mode i d' := by
  obtain ⟨-, k, hkind, hopened⟩ := open_kind h
  unfold openForWriting at h
  split at h
  · cases h
  · next dir name hplace =>
    split at h
    · obtain ⟨hi, hd⟩ := Prod.ext_iff.mp (Except.ok.inj h)
      rw [create_fst] at hi
      subst hi hd
      obtain ⟨parent, entries, hdir, hfree⟩ := place_vacant hplace
      exact .created hplace hdir hfree
    · cases h
  · next j hplace =>
    split at h
    · next content rights hn =>
      have hf := file?_eq_some.mpr hn
      split at h
      · cases h
      · split at h
        · obtain ⟨rfl, rfl⟩ := Prod.mk.inj (Except.ok.inj h)
          have hsame := setNode_self hn
          have hopened : d.Opening cwd path .append j
              (d.setNode j (.regular (start .append (some content)) rights)) := .reopened hplace hf
          rwa [start, Option.getD_some, hsame] at hopened
        · obtain ⟨rfl, rfl⟩ := Prod.mk.inj (Except.ok.inj h)
          split
          · next hempty =>
            subst hempty
            have hopened : d.Opening cwd path .overwrite j
                (d.setNode j (.regular (start .overwrite (some [])) rights)) :=
              .reopened hplace hf
            rwa [start, setNode_self hn] at hopened
          · exact .reopened hplace hf
    · cases h
    · next device _ hn =>
      cases h
      rw [kind?, hn] at hkind
      cases hkind
      exact .device hplace hn hopened
    · cases h

namespace Opening

variable (h : d.Opening cwd path mode i d')

include h

theorem names_kept : d.SameTree d' ∨ ∃ dir name, d.Adds d' dir name := by
  cases h with
  | created _ hdir hfree => exact Or.inr ⟨_, _, create_adds hdir hfree [] 0o644⟩
  | reopened _ hf => exact Or.inl (setNode_changes hf _).tree
  | device => exact Or.inl ⟨rfl, fun _ => rfl, fun _ => rfl⟩

theorem stands :
    (∃ device, d.node? i = some (.device device) ∧ (Kind.device device).IsOpen ∧ d' = d) ∨
    ∃ content rights, d'.file? i = some (content, rights) ∧ (mode = .overwrite → content = []) := by
  cases h with
  | created _ hdir hfree =>
    obtain ⟨rights, hf, -⟩ :=
      (create_creates hdir hfree (show Right.write.isIn 0o644 = true by decide)).file
    exact Or.inr ⟨[], rights, hf, fun _ => rfl⟩
  | reopened _ hf =>
    obtain ⟨-, rights, -, hf'⟩ := (setNode_changes hf (start mode _)).file
    refine Or.inr ⟨_, rights, hf', ?_⟩
    rintro rfl
    rfl
  | device _ hn ho => exact Or.inl ⟨_, hn, ho, rfl⟩

theorem file?_kept {k rights : Nat} {content : Bytes} (hf : d.file? k = some (content, rights)) :
    d'.file? k = some (if k = i then start mode (some content) else content, rights) := by
  have hlt := node?_lt (file?_eq_some.mp hf)
  cases h with
  | created _ hdir hfree =>
    have hc := create_creates hdir hfree (show Right.write.isIn 0o644 = true by decide)
    rw [if_neg (Nat.ne_of_lt hlt), hc.others k (Nat.ne_of_lt hlt), hf]
  | @reopened _ rights' content' _ hf' =>
    have hc := setNode_changes hf' (start mode (some content'))
    by_cases hk : k = i
    · subst hk
      obtain ⟨before, after, hbefore, hafter⟩ := hc.file
      rw [hf] at hf' hbefore
      cases hf'
      cases hbefore
      rw [if_pos rfl, hafter]
    · rw [if_neg hk, hc.others k hk, hf]
  | device _ hn _ =>
    have hk : k ≠ i := by
      rintro rfl
      rw [file?, hn] at hf
      cases hf
    rw [if_neg hk, hf]

end Opening

/-- The path leads to a device, which keeps nothing. -/
def IsDevice (d : Disk) (cwd : Ino) (path : String) : Prop :=
  ∃ i device, d.place .use cwd path = .ok (.found i) ∧ d.node? i = some (.device device)

/-- Anything but a device is opened as a file that starts with what was kept of it. -/
theorem Opening.starts (h : d.Opening cwd path mode i d') (hfile : ¬ d.IsDevice cwd path) :
    d'.place .use cwd path = .ok (.found i) ∧
      ∃ rights, d'.file? i = some (start mode (d.content? cwd path), rights) := by
  cases h with
  | created hplace hdir hfree =>
    have hp := place_use hplace
    have hc := create_creates hdir hfree (show Right.write.isIn 0o644 = true by decide)
    obtain ⟨rights, hf, -⟩ := hc.file
    refine ⟨?_, rights, start_vacant hp mode ▸ hf⟩
    rw [hc.adds.place_ok hp, Place.filled, if_pos rfl]
  | @reopened _ rights content hplace hf =>
    have hp := place_use hplace
    have hc := setNode_changes hf (start mode (some content))
    have hheld : d.content? cwd path = some content := by
      rw [content?_found hp, hf]
      rfl
    obtain ⟨-, rights', -, hf'⟩ := hc.file
    exact ⟨by rw [hc.tree.place, hp], rights', hheld ▸ hf'⟩
  | device hplace hn _ => exact absurd ⟨i, _, place_use hplace, hn⟩ hfile

theorem Opening.opened (h : d.Opening cwd path mode i d') (hs : d.Sound)
    (hfile : ¬ d.IsDevice cwd path) : d.Opened d' cwd path mode i := by
  cases h with
  | created hplace hdir hfree =>
    have hc := create_creates hdir hfree (show Right.write.isIn 0o644 = true by decide)
    exact hc.opened hs (place_use hplace)
  | @reopened _ rights content hplace hf =>
    have hheld : d.content? cwd path = some content := by
      rw [content?_found (place_use hplace), hf]
      rfl
    have hc := setNode_changes hf (start mode (some content))
    rw [← hheld] at hc ⊢
    exact hc.opened hs (place_use hplace)
  | device hplace hn _ => exact absurd ⟨i, _, place_use hplace, hn⟩ hfile

end Disk

end CommandShell
