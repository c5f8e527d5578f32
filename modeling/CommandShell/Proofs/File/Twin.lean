import CommandShell.Proofs.Disk.Directories
import CommandShell.Proofs.File.Handle

/-!
# Two disks side by side

A file that is opened and written on two disks which differ in nothing that this looks at fails on
both or on none, and leaves them alike. What may differ is told by two relations, one on disks and
one on handles.
-/

open CommandShell.Effect

namespace CommandShell

def Handle.Beside (D : Disk → Disk → Prop) (H : Handle → Handle → Prop) (a a' : Handle × Disk) :
    Prop :=
  H a.1 a'.1 ∧ D a.2 a'.2

/-- Related disks have the same names in them, and give related handles to whoever opens a file.
Related handles hold the same bytes back, and write alike. -/
structure Disk.Parallel (D : Disk → Disk → Prop) (H : Handle → Handle → Prop) : Prop where
  tree : ∀ {d d'}, D d d' → d.SameTree d'
  openAt : ∀ {d d'}, D d d' → ∀ cwd path mode,
    Same (Handle.Beside D H) (Handle.openAt d cwd path mode) (Handle.openAt d' cwd path mode)
  text : ∀ {h h'}, H h h' → h'.text = h.text
  block : ∀ {h h'}, H h h' → h'.block = h.block
  setText : ∀ {h h'}, H h h' → ∀ text, H { h with text } { h' with text }
  setBlock : ∀ {h h'}, H h h' → ∀ block, H { h with block } { h' with block }
  emit : ∀ bytes, Twin (Handle.Beside D H) (Handle.emit bytes)

theorem Disk.parallel_eq : Disk.Parallel Eq Eq where
  tree := by
    rintro d _ rfl
    exact ⟨rfl, fun _ => rfl, fun _ => rfl⟩
  openAt := by
    rintro d _ rfl cwd path mode
    cases Handle.openAt d cwd path mode with
    | error e => exact .error e
    | ok opened => exact .ok ⟨rfl, rfl⟩
  text := by
    rintro h _ rfl
    rfl
  block := by
    rintro h _ rfl
    rfl
  setText := by
    rintro h _ rfl text
    rfl
  setBlock := by
    rintro h _ rfl block
    rfl
  emit := by
    rintro bytes ⟨h, d⟩ ⟨_, _⟩ ⟨rfl, rfl⟩
    exact ⟨_, _, _, rfl, rfl, rfl, rfl⟩

namespace Handle

variable {D : Disk → Disk → Prop} {H : Handle → Handle → Prop} (hD : Disk.Parallel D H)

include hD

theorem twin_flushBlock : Twin (Beside D H) flushBlock := by
  rintro ⟨h, d⟩ ⟨h', d'⟩ ⟨hh, hd⟩
  have hblock : h'.block = h.block := hD.block hh
  simp only [TwinAt, flushBlock, hblock]
  split
  · exact ⟨_, _, _, rfl, rfl, hh, hd⟩
  · obtain ⟨r, ⟨k, e⟩, ⟨k', e'⟩, hk, hk', hkk, hee⟩ :=
      hD.emit h.block (h, d) (h', d') ⟨hh, hd⟩
    rw [hk, hk']
    cases r with
    | error e => exact ⟨_, _, _, rfl, rfl, hkk, hee⟩
    | ok _ => exact ⟨_, _, _, rfl, rfl, hD.setBlock hkk [], hee⟩

theorem twin_fill (bytes : Bytes) : Twin (Beside D H) (fill bytes) := by
  rintro ⟨h, d⟩ ⟨h', d'⟩ ⟨hh, hd⟩
  have hblock : h'.block = h.block := hD.block hh
  simp only [TwinAt, fill, hblock]
  split
  · exact ⟨_, _, _, rfl, rfl, hD.setBlock hh _, hd⟩
  · obtain ⟨r, ⟨k, e⟩, ⟨k', e'⟩, hk, hk', hkk, hee⟩ :=
      twin_flushBlock hD (h, d) (h', d') ⟨hh, hd⟩
    rw [hk, hk']
    cases r with
    | error e => exact ⟨_, _, _, rfl, rfl, hkk, hee⟩
    | ok _ =>
      simp only
      split
      · exact hD.emit bytes (k, e) (k', e') ⟨hkk, hee⟩
      · exact ⟨_, _, _, rfl, rfl, hD.setBlock hkk bytes, hee⟩

theorem twin_handOn : Twin (Beside D H) handOn := by
  rintro ⟨h, d⟩ ⟨h', d'⟩ ⟨hh, hd⟩
  have htext : h'.text = h.text := hD.text hh
  simp only [TwinAt, handOn, htext]
  split
  · exact ⟨_, _, _, rfl, rfl, hh, hd⟩
  · exact twin_fill hD h.text _ _ ⟨hD.setText hh [], hd⟩

theorem twin_stash (bytes : Bytes) : Twin (Beside D H) (stash bytes) := by
  rintro ⟨h, d⟩ ⟨h', d'⟩ ⟨hh, hd⟩
  have htext : h'.text = h.text := hD.text hh
  have hstored := hD.setText hh (h.text ++ bytes)
  simp only [TwinAt, stash_eq, htext]
  split
  · exact twin_handOn hD _ _ ⟨hstored, hd⟩
  · exact ⟨_, _, _, rfl, rfl, hstored, hd⟩

theorem twin_write (bytes : Bytes) : Twin (Beside D H) (write bytes) := by
  rintro ⟨h, d⟩ ⟨h', d'⟩ hb
  have htext : h'.text = h.text := hD.text hb.1
  simp only [TwinAt, write_eq, htext]
  split
  · exact twin_bind (twin_handOn hD) (fun _ => twin_stash hD bytes) _ _ hb
  · exact twin_stash hD bytes _ _ hb

theorem twin_flush : Twin (Beside D H) flush :=
  twin_bind (twin_handOn hD) fun _ => twin_flushBlock hD

end Handle

end CommandShell
