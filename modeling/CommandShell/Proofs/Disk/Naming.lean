import CommandShell.Proofs.Disk.Walk

/-!
# What paths name

A file that is created takes a free name, and every other path ends where it did. Two paths of one
file stay that, whatever is created or written.
-/

namespace CommandShell

namespace Disk

/-! ## Disks with the same directories and links -/

structure SameTree (d d' : Disk) : Prop where
  size : d'.nodes.size = d.nodes.size
  directory : ∀ i, d'.directory? i = d.directory? i
  link : ∀ i, d'.link? i = d.link? i

namespace SameTree

variable {d d' : Disk} (h : d.SameTree d')

include h

theorem advance (intent : Intent) (dir : Ino) (names : List String) :
    d'.advance intent dir names = d.advance intent dir names := by
  induction names generalizing dir with
  | nil => rfl
  | cons name rest ih => simp only [advance_cons, h.directory, h.link, ih]

theorem walk (intent : Intent) (links : Nat) (dir : Ino) (names : List String) :
    d'.walk intent links dir names = d.walk intent links dir names := by
  induction links generalizing dir names with
  | zero => rw [walk_zero, walk_zero, h.advance]
  | succ links ih => simp only [walk_succ, h.advance, ih]

theorem place (intent : Intent) (cwd : Ino) (path : String) :
    d'.place intent cwd path = d.place intent cwd path := by
  simp only [Disk.place, h.walk]

theorem isAttached (i : Ino) : d'.isAttached i = d.isAttached i := by
  simp only [isAttached_eq, entries_eq, h.directory]

end SameTree

/-! ## A new file -/

/-- The second disk has one more file, under a name that was free on the first. -/
structure Adds (d d' : Disk) (dir : Ino) (name : String) : Prop where
  size : d'.nodes.size = d.nodes.size + 1
  directory : ∃ parent entries, d.directory? dir = some (parent, entries) ∧
    entries.lookup name = none ∧ ∀ i, d'.directory? i =
      if i = dir then some (parent, entries ++ [(name, d.nodes.size)]) else d.directory? i
  link : ∀ i, d'.link? i = d.link? i

inductive Stop.Becomes (dir : Ino) (name : String) (i : Ino) : Stop → Stop → Prop
  | failed (e e' : Errno) : Becomes dir name i (.failed e) (.failed e')
  | filled : Becomes dir name i (.vacant dir name) (.found i)
  | same {s : Stop} : s ≠ .vacant dir name → Becomes dir name i s s

def Place.filled (dir : Ino) (name : String) (i : Ino) (p : Place) : Place :=
  if p = .vacant dir name then .found i else p

inductive Place.Becomes (dir : Ino) (name : String) (i : Ino) :
    Except Errno Place → Except Errno Place → Prop
  | failed (e e' : Errno) : Becomes dir name i (.error e) (.error e')
  | ended (p : Place) : Becomes dir name i (.ok p) (.ok (p.filled dir name i))

theorem Stop.Becomes.resume {dir : Ino} {name : String} {i : Ino} {s s' : Stop}
    {onward onward' : Ino → String → List String → Except Errno Place}
    (h : Stop.Becomes dir name i s s')
    (ho : ∀ x target rest, Place.Becomes dir name i (onward x target rest)
      (onward' x target rest)) :
    Place.Becomes dir name i (s.resume onward) (s'.resume onward') := by
  cases h with
  | failed e e' => exact .failed e e'
  | filled =>
    have hp : Place.filled dir name i (.vacant dir name) = .found i := if_pos rfl
    rw [Stop.resume, Stop.resume, ← hp]
    exact .ended (.vacant dir name)
  | same hs =>
    cases s with
    | found j => exact .ended (.found j)
    | vacant dir' name' =>
      have hp : Place.filled dir name i (.vacant dir' name') = .vacant dir' name' :=
        if_neg fun he => hs (by cases he; rfl)
      have hb : Place.Becomes dir name i (.ok (.vacant dir' name'))
          (.ok (Place.filled dir name i (.vacant dir' name'))) := .ended _
      rwa [hp] at hb
    | link x target rest => exact ho x target rest
    | failed e => exact .failed e e

theorem directory?_size (d : Disk) : d.directory? d.nodes.size = none := by
  have hn : d.node? d.nodes.size = none := by simp [node?]
  rw [directory?, hn]

theorem link?_size (d : Disk) : d.link? d.nodes.size = none := by
  have hn : d.node? d.nodes.size = none := by simp [node?]
  rw [link?, hn]

namespace Adds

variable {d d' : Disk} {dir : Ino} {name : String} (h : d.Adds d' dir name)

include h

theorem directory_none {x : Ino} (hx : d.directory? x = none) : d'.directory? x = none := by
  obtain ⟨parent, entries, hdir, -, hall⟩ := h.directory
  have hne : x ≠ dir := by
    rintro rfl
    rw [hx] at hdir
    cases hdir
  rw [hall, if_neg hne, hx]

theorem directory_some {x parent : Ino} {entries : List (String × Ino)}
    (hx : d.directory? x = some (parent, entries)) :
    ∃ entries', d'.directory? x = some (parent, entries') ∧
      (x = dir → entries.lookup name = none) ∧ ∀ n, entries'.lookup n =
        if x = dir ∧ n = name then some d.nodes.size else entries.lookup n := by
  obtain ⟨parent', before, hdir, hfree, hall⟩ := h.directory
  by_cases hxd : x = dir
  · subst hxd
    obtain ⟨rfl, rfl⟩ := Prod.mk.inj (Option.some.inj (hx.symm.trans hdir))
    refine ⟨entries ++ [(name, d.nodes.size)], by rw [hall, if_pos rfl], fun _ => hfree,
      fun n => ?_⟩
    rw [List.lookup_append]
    by_cases hn : n = name
    · subst hn
      simp [hfree]
    · have hb : (n == name) = false := by simpa using hn
      simp [hn, List.lookup_cons, hb]
  · refine ⟨entries, by rw [hall, if_neg hxd, hx], fun he => absurd he hxd, fun n => ?_⟩
    rw [if_neg (fun hn => hxd hn.1)]

theorem advance (intent : Intent) (x : Ino) (names : List String) :
    Stop.Becomes dir name d.nodes.size (d.advance intent x names) (d'.advance intent x names) := by
  induction names generalizing x with
  | nil => exact .same (by rintro ⟨⟩)
  | cons n rest ih =>
    rw [advance_cons, advance_cons]
    cases hx : d.directory? x with
    | none =>
      rw [h.directory_none hx]
      exact .failed _ _
    | some node =>
      obtain ⟨parent, entries⟩ := node
      obtain ⟨entries', hx', hfree, hlook⟩ := h.directory_some hx
      rw [hx']
      simp only
      split
      · exact .failed _ _
      · split
        · exact ih x
        · split
          · exact ih parent
          · split
            · exact .failed _ _
            · rw [hlook]
              -- Only here the disks differ: the walk comes to the new file, and ends or fails.
              by_cases hnew : x = dir ∧ n = name
              · obtain ⟨rfl, rfl⟩ := hnew
                simp only [hfree rfl, and_self, if_true, h.link, link?_size]
                cases rest with
                | nil => exact .filled
                | cons n' rest =>
                  rw [advance_cons, h.directory_none d.directory?_size]
                  exact .failed _ _
              · rw [if_neg hnew]
                cases entries.lookup n with
                | none =>
                  simp only
                  split
                  · refine .same fun he => hnew ?_
                    cases he
                    exact ⟨rfl, rfl⟩
                  · exact .failed _ _
                | some k =>
                  simp only [h.link]
                  cases d.link? k with
                  | none => exact ih k
                  | some target => exact .same (by rintro ⟨⟩)

theorem walk (intent : Intent) (links : Nat) (x : Ino) (names : List String) :
    Place.Becomes dir name d.nodes.size (d.walk intent links x names)
      (d'.walk intent links x names) := by
  induction links generalizing x names with
  | zero =>
    rw [walk_zero, walk_zero]
    exact (h.advance intent x names).resume fun _ _ _ => .failed _ _
  | succ links ih =>
    rw [walk_succ, walk_succ]
    refine (h.advance intent x names).resume fun x target rest => ?_
    split
    · exact .failed _ _
    · exact ih _ _

theorem place (intent : Intent) (cwd : Ino) (path : String) :
    Place.Becomes dir name d.nodes.size (d.place intent cwd path) (d'.place intent cwd path) := by
  rw [Disk.place, Disk.place]
  split
  · exact .failed _ _
  · split
    · exact .failed _ _
    · exact h.walk intent 40 _ _

theorem place_ok {intent : Intent} {cwd : Ino} {path : String} {p : Place}
    (hp : d.place intent cwd path = .ok p) :
    d'.place intent cwd path = .ok (p.filled dir name d.nodes.size) := by
  have hb := h.place intent cwd path
  rw [hp] at hb
  generalize d'.place intent cwd path = r at hb
  cases hb with
  | ended => rfl

theorem place_error {intent : Intent} {cwd : Ino} {path : String} {e : Errno}
    (hp : d.place intent cwd path = .error e) : ∃ e', d'.place intent cwd path = .error e' := by
  have hb := h.place intent cwd path
  rw [hp] at hb
  generalize d'.place intent cwd path = r at hb
  cases hb with
  | failed e e' => exact ⟨e', rfl⟩

theorem entries_mem {x : Ino} {entry : String × Ino} (he : entry ∈ d.entries x) :
    entry ∈ d'.entries x := by
  obtain ⟨parent, entries, hdir, -, hall⟩ := h.directory
  rw [entries_eq] at he ⊢
  rw [hall]
  split
  · next hx =>
    rw [hx, hdir] at he
    exact List.mem_append_left _ he
  · exact he

theorem isAttached {i : Ino} (hi : d.isAttached i = true) : d'.isAttached i = true := by
  rw [isAttached_eq] at hi ⊢
  rw [Bool.or_eq_true] at hi ⊢
  refine hi.imp id fun hi => ?_
  cases hdir : d.directory? i with
  | none => simp [hdir] at hi
  | some node =>
    obtain ⟨parent, entries⟩ := node
    obtain ⟨entries', hdir', -⟩ := h.directory_some hdir
    simp only [hdir, hdir', Option.any_some, List.any_eq_true] at hi ⊢
    obtain ⟨entry, hentry, hi⟩ := hi
    exact ⟨entry, h.entries_mem hentry, hi⟩

end Adds

theorem create_adds {d : Disk} {dir parent : Ino} {entries : List (String × Ino)} {name : String}
    (hd : d.directory? dir = some (parent, entries)) (hl : entries.lookup name = none)
    (content : Bytes) (rights : Nat) :
    d.Adds (d.create dir name (.regular content rights)).2 dir name := by
  have hnode := directory?_eq_some.mp hd
  have hlt := node?_lt hnode
  have hall (i : Ino) : (d.create dir name (.regular content rights)).2.node? i =
      if i = d.nodes.size then some (.regular content rights)
      else if i = dir then some (.directory parent (entries ++ [(name, d.nodes.size)]))
      else d.node? i := by
    simp only [create, hnode]
    rw [node?_push, size_setNode, node?_setNode]
    simp only [hlt, and_true, eq_comm]
  refine ⟨?_, ⟨parent, entries, hd, hl, fun i => ?_⟩, fun i => ?_⟩
  · simp only [create, hnode]
    simp [setNode]
  · rw [directory?, hall]
    by_cases hi : i = d.nodes.size
    · subst hi
      rw [if_pos rfl, if_neg (Nat.ne_of_gt hlt), directory?_size]
    · rw [if_neg hi]
      by_cases hid : i = dir
      · rw [if_pos hid, if_pos hid]
      · rw [if_neg hid, if_neg hid, directory?]
  · rw [link?, hall]
    by_cases hi : i = d.nodes.size
    · subst hi
      rw [if_pos rfl, link?_size]
    · rw [if_neg hi]
      by_cases hid : i = dir
      · subst hid
        rw [if_pos rfl, link?, hnode]
      · rw [if_neg hid, link?]

/-! ## Sound disks -/

/-- Directories lead to nodes of the disk. -/
def Sound (d : Disk) : Prop :=
  ∀ i parent entries, d.directory? i = some (parent, entries) →
    parent < d.nodes.size ∧ ∀ entry ∈ entries, entry.2 < d.nodes.size

theorem SameTree.sound {d d' : Disk} (h : d.SameTree d') (hs : d.Sound) : d'.Sound := by
  intro i parent entries hi
  rw [h.directory] at hi
  rw [h.size]
  exact hs i parent entries hi

theorem Adds.sound {d d' : Disk} {dir : Ino} {name : String} (h : d.Adds d' dir name)
    (hs : d.Sound) : d'.Sound := by
  intro i parent entries hi
  obtain ⟨parent', before, hdir, -, hall⟩ := h.directory
  rw [hall] at hi
  rw [h.size]
  split at hi
  · cases hi
    obtain ⟨hp, he⟩ := hs dir _ _ hdir
    refine ⟨Nat.lt_succ_of_lt hp, fun entry hentry => ?_⟩
    rcases List.mem_append.mp hentry with hb | hn
    · exact Nat.lt_succ_of_lt (he entry hb)
    · rw [List.mem_singleton.mp hn]
      exact Nat.lt_succ_self _
  · obtain ⟨hp, he⟩ := hs i parent entries hi
    exact ⟨Nat.lt_succ_of_lt hp, fun entry hentry => Nat.lt_succ_of_lt (he entry hentry)⟩

theorem directory?_lt {d : Disk} {i : Ino} {node : Ino × List (String × Ino)}
    (h : d.directory? i = some node) : i < d.nodes.size :=
  node?_lt (directory?_eq_some.mp h)

theorem advance_found_lt {d : Disk} (hs : d.Sound) {intent : Intent} {x i : Ino}
    {names : List String} (hn : names ≠ [] ∨ x < d.nodes.size)
    (h : d.advance intent x names = .found i) : i < d.nodes.size := by
  induction names generalizing x with
  | nil =>
    cases h
    exact hn.resolve_left (by simp)
  | cons n rest ih =>
    rcases d.advance_step intent x n rest with ⟨e, he⟩ |
      ⟨parent, entries, hx, ⟨-, he⟩ | ⟨target, he⟩ | ⟨y, hy, he⟩⟩
    · rw [he] at h
      cases h
    · rw [he] at h
      cases h
    · rw [he] at h
      cases h
    · refine ih (Or.inr ?_) (he.symm.trans h)
      obtain ⟨hp, hentries⟩ := hs x parent entries hx
      rcases hy with rfl | rfl | ⟨entry, hentry, rfl⟩
      · exact directory?_lt hx
      · exact hp
      · exact hentries entry hentry

theorem place_found_lt {d : Disk} (hs : d.Sound) {intent : Intent} {cwd i : Ino} {path : String}
    (h : d.place intent cwd path = .ok (.found i)) : i < d.nodes.size := by
  obtain ⟨x, names, hn, ha⟩ := place_ok h
  exact advance_found_lt hs (Or.inl hn) ha

/-! ## Paths of one file -/

/-- The two paths end in one place. -/
def sameFile (d : Disk) (cwd : Ino) (path : String) (dir : Ino) (path' : String) : Bool :=
  match d.place .use cwd path, d.place .use dir path' with
  | .ok p, .ok p' => p = p'
  | _, _ => false

theorem sameFile_iff {d : Disk} {cwd dir : Ino} {path path' : String} :
    d.sameFile cwd path dir path' ↔
      ∃ p, d.place .use cwd path = .ok p ∧ d.place .use dir path' = .ok p := by
  rw [sameFile]
  cases d.place .use cwd path <;> cases d.place .use dir path' <;> simp [eq_comm]

def SameNames (d d' : Disk) : Prop :=
  ∀ cwd path dir path', d'.sameFile cwd path dir path' = d.sameFile cwd path dir path'

theorem SameNames.trans {d d' d'' : Disk} (h : d.SameNames d') (h' : d'.SameNames d'') :
    d.SameNames d'' :=
  fun cwd path dir path' => (h' cwd path dir path').trans (h cwd path dir path')

theorem SameTree.names {d d' : Disk} (h : d.SameTree d') : d.SameNames d' := by
  intro cwd path dir path'
  rw [sameFile, sameFile, h.place, h.place]

theorem filled_inj {d : Disk} {dir : Ino} {name : String} {p p' : Place}
    (hp : p ≠ .found d.nodes.size) (hp' : p' ≠ .found d.nodes.size)
    (h : p.filled dir name d.nodes.size = p'.filled dir name d.nodes.size) : p = p' := by
  unfold Place.filled at h
  split at h <;> split at h
  · next h1 h2 => rw [h1, h2]
  · exact absurd h.symm hp'
  · exact absurd h hp
  · exact h

theorem Adds.names {d d' : Disk} {dir : Ino} {name : String} (h : d.Adds d' dir name)
    (hs : d.Sound) : d.SameNames d' := by
  intro cwd path cwd' path'
  have hfound {intent : Intent} {x : Ino} {q : String} {p : Place}
      (hq : d.place intent x q = .ok p) : p ≠ .found d.nodes.size := by
    rintro rfl
    exact absurd (place_found_lt hs hq) (Nat.lt_irrefl _)
  have hb := h.place .use cwd path
  have hb' := h.place .use cwd' path'
  have hp := @hfound .use cwd path
  have hp' := @hfound .use cwd' path'
  rw [sameFile, sameFile]
  generalize d.place .use cwd path = r at *
  generalize d.place .use cwd' path' = r' at *
  generalize d'.place .use cwd path = s at *
  generalize d'.place .use cwd' path' = s' at *
  cases hb with
  | failed e e' => rfl
  | ended p =>
    cases hb' with
    | failed e e' => rfl
    | ended p' =>
      simp only [decide_eq_decide]
      exact ⟨filled_inj (hp rfl) (hp' rfl), fun he => he ▸ rfl⟩

end Disk

end CommandShell
