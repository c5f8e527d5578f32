import CommandShell.Proofs.Disk.Opening
import Mathlib.Data.Fintype.Card

/-!
# Directories and their paths

Which directory a path leads to, and the path of a directory, are the same after a file was opened:
a new file is no directory, and has no directory below it.
-/

namespace CommandShell

namespace Disk

/-! ## The directory at a path -/

def directoryAt? (d : Disk) (cwd : Ino) (path : String) : Option Ino :=
  if isPathText path then
    match d.locate cwd path with
    | .ok i => if d.isDirectory i then some i else none
    | .error _ => none
  else none

theorem hasDirectory_eq (d : Disk) (cwd : Ino) (path : String) :
    d.hasDirectory cwd path = (d.directoryAt? cwd path).isSome := by
  unfold hasDirectory directoryAt?
  cases isPathText path with
  | false => rfl
  | true =>
    cases d.locate cwd path with
    | error e => rfl
    | ok i => cases h : d.isDirectory i <;> simp [h]

theorem directoryAt?_eq_some {d : Disk} {cwd i : Ino} {path : String}
    (h : d.directoryAt? cwd path = some i) :
    isPathText path = true ∧ d.locate cwd path = .ok i ∧ d.isDirectory i = true := by
  unfold directoryAt? at h
  split at h
  · next hpath =>
    split at h
    · next j hl =>
      split at h
      · next hj =>
        cases h
        exact ⟨hpath, hl, hj⟩
      · cases h
    · cases h
  · cases h

theorem isDirectory_eq (d : Disk) (i : Ino) : d.isDirectory i = (d.directory? i).isSome := by
  rw [isDirectory, directory?]
  cases d.node? i with
  | none => rfl
  | some n => cases n <;> rfl

section SameTree

variable {d d' : Disk} (h : d.SameTree d') (cwd : Ino) (path : String)

include h

theorem SameTree.locate : d'.locate cwd path = d.locate cwd path := by
  rw [Disk.locate, Disk.locate, h.place]

theorem SameTree.isDirectory (i : Ino) : d'.isDirectory i = d.isDirectory i := by
  rw [isDirectory_eq, isDirectory_eq, h.directory]

theorem SameTree.directoryAt? : d'.directoryAt? cwd path = d.directoryAt? cwd path := by
  simp only [Disk.directoryAt?, h.locate, h.isDirectory]

theorem SameTree.hasDirectory : d'.hasDirectory cwd path = d.hasDirectory cwd path := by
  rw [hasDirectory_eq, hasDirectory_eq, h.directoryAt?]

end SameTree

theorem Adds.isDirectory {d d' : Disk} {dir : Ino} {name : String} (h : d.Adds d' dir name)
    (i : Ino) : d'.isDirectory i = d.isDirectory i := by
  obtain ⟨parent, entries, hdir, -, hall⟩ := h.directory
  rw [isDirectory_eq, isDirectory_eq, hall]
  split
  · next hi => rw [hi, hdir]; rfl
  · rfl

theorem Adds.directoryAt? {d d' : Disk} {dir : Ino} {name : String} (h : d.Adds d' dir name)
    (cwd : Ino) (path : String) : d'.directoryAt? cwd path = d.directoryAt? cwd path := by
  unfold Disk.directoryAt? locate
  cases hp : d.place .use cwd path with
  | error e =>
    obtain ⟨e', he⟩ := h.place_error hp
    rw [he]
  | ok p =>
    rw [h.place_ok hp]
    cases p with
    | found i => simp only [Place.filled, reduceCtorEq, if_false, h.isDirectory]
    | vacant x name' =>
      -- The path may have come to lead somewhere, but then it leads to the new file.
      have hnew : d'.isDirectory d.nodes.size = false := by
        rw [h.isDirectory, isDirectory_eq, directory?_size]
        rfl
      by_cases hplace : Place.vacant x name' = .vacant dir name
      · rw [Place.filled, if_pos hplace]
        simp [hnew]
      · rw [Place.filled, if_neg hplace]

/-! ## The path of a directory -/

theorem climb_succ (d : Disk) (fuel : Nat) (i : Ino) (below : List String) :
    d.climb (fuel + 1) i below =
      if i = root then some below
      else match d.directory? i with
        | none => none
        | some (parent, _) =>
          match (d.entries parent).find? (·.2 = i) with
          | some (name, _) => d.climb fuel parent (name :: below)
          | none => none := by
  rw [climb, directory?]
  split
  · rfl
  · cases d.node? i with
    | none => rfl
    | some n => cases n <;> rfl

theorem SameTree.climb {d d' : Disk} (h : d.SameTree d') (fuel : Nat) (i : Ino)
    (below : List String) : d'.climb fuel i below = d.climb fuel i below := by
  induction fuel generalizing i below with
  | zero => rfl
  | succ fuel ih => simp only [climb_succ, entries_eq, h.directory, ih]

theorem Adds.find?_entries {d d' : Disk} {dir : Ino} {name : String} (h : d.Adds d' dir name)
    {i : Ino} (hi : i ≠ d.nodes.size) (parent : Ino) :
    (d'.entries parent).find? (·.2 = i) = (d.entries parent).find? (·.2 = i) := by
  obtain ⟨above, entries, hdir, -, hall⟩ := h.directory
  rw [entries_eq, entries_eq, hall]
  split
  · next hparent =>
    have hnew : [(name, d.nodes.size)].find? (·.2 = i) = none := by simp [hi.symm]
    simp only [hparent, hdir, Option.map_some, Option.getD_some, List.find?_append, hnew,
      Option.or_none]
  · rfl

theorem Adds.climb {d d' : Disk} {dir : Ino} {name : String} (h : d.Adds d' dir name) (fuel : Nat)
    (i : Ino) (below : List String) : d'.climb fuel i below = d.climb fuel i below := by
  induction fuel generalizing i below with
  | zero => rfl
  | succ fuel ih =>
    rw [climb_succ, climb_succ]
    cases hi : d.directory? i with
    | none => rw [h.directory_none hi]
    | some node =>
      obtain ⟨parent, entries⟩ := node
      obtain ⟨entries', hi', -⟩ := h.directory_some hi
      have hlt := Nat.ne_of_lt (directory?_lt hi)
      simp only [hi', h.find?_entries hlt, ih]

inductive Below (d : Disk) : Nat → Ino → Prop
  | root : Below d 0 root
  | step {n : Nat} {i parent : Ino} {entries : List (String × Ino)} {entry : String × Ino} :
      i ≠ Disk.root → d.directory? i = some (parent, entries) →
      (d.entries parent).find? (·.2 = i) = some entry → Below d n parent → Below d (n + 1) i

theorem below_unique {d : Disk} {n k : Nat} {i : Ino} (h : d.Below n i) (h' : d.Below k i) :
    n = k := by
  induction h generalizing k with
  | root =>
    cases h' with
    | root => rfl
    | step hi => exact absurd rfl hi
  | step hi hdir _ _ ih =>
    cases h' with
    | root => exact absurd rfl hi
    | step _ hdir' _ hrest =>
      cases hdir.symm.trans hdir'
      rw [ih hrest]

theorem below_passes {d : Disk} {n : Nat} {i : Ino} (h : d.Below n i) (k : Nat) (hk : k < n) :
    ∃ j, d.Below (k + 1) j ∧ j < d.nodes.size := by
  induction h with
  | root => exact absurd hk (Nat.not_lt_zero k)
  | @step n i parent entries entry hi hdir hfind hrest ih =>
    by_cases hkn : k < n
    · exact ih hkn
    · have hkn' : k = n := by omega
      subst hkn'
      exact ⟨i, .step hi hdir hfind hrest, directory?_lt hdir⟩

/-- Directories at different depths are different, so there are no more depths than nodes. -/
theorem below_le_size {d : Disk} {n : Nat} {i : Ino} (h : d.Below n i) : n ≤ d.nodes.size := by
  have hpasses (k : Fin n) := below_passes h k.val k.isLt
  choose f hbelow hlt using hpasses
  have hinj : Function.Injective fun k => (⟨f k, hlt k⟩ : Fin d.nodes.size) := by
    intro k k' heq
    have hf : f k = f k' := congrArg Fin.val heq
    have hdepth := below_unique (hbelow k) (hf ▸ hbelow k')
    exact Fin.ext (Nat.succ.inj hdepth)
  simpa using Fintype.card_le_of_injective _ hinj

theorem climb_below {d : Disk} {fuel : Nat} {i : Ino} {below : List String}
    (h : d.climb fuel i below ≠ none) : ∃ n, d.Below n i := by
  induction fuel generalizing i below with
  | zero => exact absurd rfl h
  | succ fuel ih =>
    rw [climb_succ] at h
    by_cases hi : i = root
    · exact ⟨0, hi ▸ .root⟩
    · rw [if_neg hi] at h
      cases hdir : d.directory? i with
      | none => simp [hdir] at h
      | some node =>
        simp only [hdir] at h
        cases hfind : (d.entries node.1).find? (·.2 = i) with
        | none => simp [hfind] at h
        | some entry =>
          simp only [hfind] at h
          obtain ⟨n, hn⟩ := ih h
          exact ⟨n + 1, .step hi hdir hfind hn⟩

theorem climb_more {d : Disk} {n : Nat} {i : Ino} (h : d.Below n i) {fuel : Nat} (hf : n < fuel)
    (below : List String) : d.climb (fuel + 1) i below = d.climb fuel i below := by
  induction h generalizing fuel below with
  | root =>
    obtain ⟨fuel, rfl⟩ := Nat.exists_eq_succ_of_ne_zero (Nat.ne_zero_of_lt hf)
    rw [climb_succ, climb_succ, if_pos rfl, if_pos rfl]
  | step hi hdir hfind _ ih =>
    obtain ⟨fuel, rfl⟩ := Nat.exists_eq_succ_of_ne_zero (Nat.ne_zero_of_lt hf)
    rw [climb_succ, climb_succ]
    simp only [if_neg hi, hdir, hfind]
    exact ih (Nat.lt_of_succ_lt_succ hf) _

/-- Fuel beyond the number of nodes does nothing. -/
theorem climb_stable {d : Disk} {fuel : Nat} (hf : d.nodes.size < fuel) (i : Ino)
    (below : List String) : d.climb (fuel + 1) i below = d.climb fuel i below := by
  by_cases h : ∃ n, d.Below n i
  · obtain ⟨n, hn⟩ := h
    exact climb_more hn (Nat.lt_of_le_of_lt (below_le_size hn) hf) below
  · have hnone (fuel : Nat) : d.climb fuel i below = none :=
      Decidable.byContradiction fun hne => h (climb_below hne)
    rw [hnone, hnone]

theorem SameTree.pathOf? {d d' : Disk} (h : d.SameTree d') (i : Ino) :
    d'.pathOf? i = d.pathOf? i := by
  rw [Disk.pathOf?, Disk.pathOf?, h.size, h.climb]

theorem Adds.pathOf? {d d' : Disk} {dir : Ino} {name : String} (h : d.Adds d' dir name) (i : Ino) :
    d'.pathOf? i = d.pathOf? i := by
  rw [Disk.pathOf?, Disk.pathOf?, h.size, h.climb, climb_stable (Nat.lt_succ_self _)]

/-! ## Opening -/

namespace Opening

variable {d d' : Disk} {cwd i : Ino} {path : String} {mode : OpenMode}
  (h : d.Opening cwd path mode i d')

include h

theorem directoryAt? (dir : Ino) (path' : String) :
    d'.directoryAt? dir path' = d.directoryAt? dir path' := by
  rcases h.names_kept with hsame | ⟨x, name, hadds⟩
  · exact hsame.directoryAt? dir path'
  · exact hadds.directoryAt? dir path'

theorem pathOf? (dir : Ino) : d'.pathOf? dir = d.pathOf? dir := by
  rcases h.names_kept with hsame | ⟨x, name, hadds⟩
  · exact hsame.pathOf? dir
  · exact hadds.pathOf? dir

end Opening

end Disk

end CommandShell
