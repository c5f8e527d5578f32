import CommandShell.Boot
import CommandShell.Disk.Tree
import CommandShell.Proofs.Disk.Naming
import CommandShell.Proofs.Effect

/-!
# Disks that are built are sound

The disk that a machine starts with is sound, and whatever is put there, taken away, opened or
written leaves it so.
-/

open CommandShell.Effect

namespace CommandShell

def Node.LeadsBelow (size : Nat) : Node → Prop
  | .directory parent entries => parent < size ∧ ∀ entry ∈ entries, entry.2 < size
  | .regular .. | .link _ | .device _ => True

instance (size : Nat) : DecidablePred (Node.LeadsBelow size)
  | .directory .. => inferInstanceAs (Decidable (_ ∧ _))
  | .regular .. | .link _ | .device _ => inferInstanceAs (Decidable True)

theorem Node.leadsBelow_mono {n : Node} {size size' : Nat} (h : n.LeadsBelow size)
    (hs : size ≤ size') : n.LeadsBelow size' := by
  cases n with
  | directory parent entries =>
    exact ⟨Nat.lt_of_lt_of_le h.1 hs, fun entry he => Nat.lt_of_lt_of_le (h.2 entry he) hs⟩
  | _ => trivial

namespace Disk

theorem sound_iff {d : Disk} :
    d.Sound ↔ ∀ i n, d.node? i = some n → n.LeadsBelow d.nodes.size := by
  constructor
  · intro hs i n hn
    cases n with
    | directory parent entries => exact hs i parent entries (directory?_eq_some.mpr hn)
    | _ => trivial
  · intro h i parent entries hd
    exact h i _ (directory?_eq_some.mp hd)

instance (d : Disk) : Decidable d.Sound :=
  decidable_of_iff (∀ n ∈ d.nodes.toList, n.LeadsBelow d.nodes.size) <| by
    rw [sound_iff]
    constructor
    · intro h i n hn
      exact h n (Array.mem_toList_iff.mpr (Array.mem_of_getElem? hn))
    · intro h n hn
      obtain ⟨i, hi⟩ := Array.getElem?_of_mem (Array.mem_toList_iff.mp hn)
      exact h i n hi

theorem sound_standard : standard.Sound := by decide

/-! ## Single nodes -/

theorem sound_setNode {d : Disk} (hs : d.Sound) (i : Ino) {n : Node}
    (hn : n.LeadsBelow d.nodes.size) : (d.setNode i n).Sound := by
  rw [sound_iff] at hs ⊢
  intro j n' hj
  rw [size_setNode]
  rw [node?_setNode] at hj
  split at hj
  · cases hj
    exact hn
  · exact hs j n' hj

theorem sound_create {d : Disk} (hs : d.Sound) (dir : Ino) (name : String) {n : Node}
    (hn : n.LeadsBelow (d.nodes.size + 1)) : (d.create dir name n).2.Sound := by
  have hall := sound_iff.mp hs
  rw [sound_iff]
  intro j n' hj
  unfold create at hj ⊢
  split at hj
  · next parent entries hdir =>
    simp only [Array.size_push, size_setNode]
    rw [node?_push, node?_setNode] at hj
    obtain ⟨hp, he⟩ := hall dir _ hdir
    split at hj
    · cases hj
      exact hn
    · split at hj
      · cases hj
        refine ⟨Nat.lt_succ_of_lt hp, fun entry hentry => ?_⟩
        rcases List.mem_append.mp hentry with hb | hlast
        · exact Nat.lt_succ_of_lt (he entry hb)
        · rw [List.mem_singleton.mp hlast]
          exact Nat.lt_succ_self _
      · exact Node.leadsBelow_mono (hall j n' hj) (Nat.le_succ _)
  · simp only [Array.size_push]
    rw [node?_push] at hj
    split at hj
    · cases hj
      exact hn
    · exact Node.leadsBelow_mono (hall j n' hj) (Nat.le_succ _)

/-! ## Opening and writing -/

theorem sound_writeAt {d d' : Disk} (hs : d.Sound) {i : Ino} {offset : Nat} {bytes : Bytes}
    (h : d.writeAt i offset bytes = .ok d') : d'.Sound := by
  rcases writeAt_ok h with ⟨content, mode, -, rfl⟩ | rfl
  · exact sound_setNode hs i trivial
  · exact hs

theorem sound_open {d d' : Disk} (hs : d.Sound) {cwd i : Ino} {path : String} {mode : OpenMode}
    (h : d.openForWriting cwd path mode = .ok (i, d')) : d'.Sound := by
  unfold openForWriting at h
  split at h
  · cases h
  · next dir name _ =>
    split at h
    · obtain ⟨-, rfl⟩ := Prod.ext_iff.mp (Except.ok.inj h)
      exact sound_create hs dir name trivial
    · cases h
  · next k _ =>
    split at h
    · split at h
      · cases h
      · split at h
        · cases h
          exact hs
        · cases h
          split
          · exact hs
          · exact sound_setNode hs _ trivial
    · cases h
    · cases h
      exact hs
    · cases h

/-! ## Trees -/

theorem sound_makeDirectories {d d' : Disk} (hs : d.Sound) {dir i : Ino} {names : List String}
    (h : d.makeDirectories dir names = .ok (i, d')) : d'.Sound := by
  induction names generalizing d dir with
  | nil =>
    cases h
    exact hs
  | cons name rest ih =>
    unfold makeDirectories at h
    split at h
    · cases h
    · exact ih hs h
    · next parent name' hwalk =>
      obtain ⟨x, names, -, ha⟩ := walk_ok (List.cons_ne_nil _ _) hwalk
      obtain ⟨above, entries, hdir, -⟩ := advance_vacant ha
      have hbelow : Node.LeadsBelow (d.nodes.size + 1) (.directory parent []) :=
        ⟨Nat.lt_succ_of_lt (directory?_lt hdir), by simp⟩
      exact ih (sound_create hs parent name' hbelow) h

theorem sound_install {d d' : Disk} (hs : d.Sound) {dir : Ino} {path : String} {entry : Entry}
    (h : d.install dir path entry = .ok d') : d'.Sound := by
  unfold install at h
  cases entry with
  | directory =>
    obtain ⟨made, hm, hd⟩ := except_bind_ok h
    cases hd
    exact sound_makeDirectories hs hm
  | link target =>
    obtain ⟨made, hm, hd⟩ := except_bind_ok h
    cases hd
    exact sound_create (sound_makeDirectories hs hm) _ _ trivial
  | file content mode =>
    obtain ⟨made, hm, hrest⟩ := except_bind_ok h
    obtain ⟨opened, ho, hd⟩ := except_bind_ok hrest
    cases hd
    exact sound_setNode (sound_open (sound_makeDirectories hs hm) ho) _ trivial

theorem sound_clear {d : Disk} (hs : d.Sound) (i : Ino) :
    (d.clear i).Sound ∧ (d.clear i).nodes.size = d.nodes.size := by
  unfold clear
  generalize d.below d.nodes.size i = below
  induction below generalizing d with
  | nil => exact ⟨hs, rfl⟩
  | cons j below ih =>
    rw [List.foldl_cons]
    split
    · next parent entries hj =>
      obtain ⟨hparent, -⟩ := sound_iff.mp hs j _ hj
      have hs' := sound_setNode hs j (n := .directory parent []) ⟨hparent, by simp⟩
      obtain ⟨h, hsize⟩ := ih hs'
      exact ⟨h, hsize.trans (size_setNode d j _)⟩
    · exact ih hs

theorem sound_remove {d d' : Disk} (hs : d.Sound) {dir : Ino} {path : String}
    (h : d.remove dir path = .ok d') : d'.Sound := by
  simp only [remove] at h
  split at h
  · cases h
  · cases h
  · next parent _ =>
    split at h
    · next above entries hdir =>
      split at h
      · cases h
      · next i _ =>
        cases h
        -- The entries are from before the clearing, and the table has kept its size.
        obtain ⟨hc, hsize⟩ := sound_clear hs i
        obtain ⟨ha, he⟩ := sound_iff.mp hs parent _ hdir
        refine sound_setNode hc parent ⟨hsize ▸ ha, fun entry hentry => ?_⟩
        exact hsize ▸ he entry (List.mem_filter.mp hentry).1
    · cases h

/-! ## Whole histories -/

/-- The disks that come of the standard one. -/
inductive Built : Disk → Prop
  | standard : Built .standard
  | install {d d' : Disk} {dir : Ino} {path : String} {entry : Entry} :
      Built d → d.install dir path entry = .ok d' → Built d'
  | remove {d d' : Disk} {dir : Ino} {path : String} :
      Built d → d.remove dir path = .ok d' → Built d'
  | opened {d d' : Disk} {cwd i : Ino} {path : String} {mode : OpenMode} :
      Built d → d.openForWriting cwd path mode = .ok (i, d') → Built d'
  | written {d d' : Disk} {i : Ino} {offset : Nat} {bytes : Bytes} :
      Built d → d.writeAt i offset bytes = .ok d' → Built d'

theorem built_sound {d : Disk} (h : d.Built) : d.Sound := by
  induction h with
  | standard => exact sound_standard
  | install _ h ih => exact sound_install ih h
  | remove _ h ih => exact sound_remove ih h
  | opened _ h ih => exact sound_open ih h
  | written _ h ih => exact sound_writeAt ih h

end Disk

end CommandShell
