import CommandShell.Proofs.Disk.Content
import CommandShell.Proofs.File.Twin

/-!
# Disks that one file tells apart

Files are opened and written alike on two disks that differ in what one file holds, and after that
the disks still differ in nothing else.
-/

open CommandShell.Effect

namespace CommandShell

namespace Disk

/-- The disks differ in the content of the file `i` at most. -/
structure Alike (i : Ino) (d d' : Disk) : Prop where
  others : ∀ j, j ≠ i → d'.node? j = d.node? j
  file : d'.node? i = d.node? i ∨ ∃ content content' rights,
    d.node? i = some (.regular content rights) ∧ d'.node? i = some (.regular content' rights)

theorem alike_refl (i : Ino) (d : Disk) : d.Alike i d := ⟨fun _ _ => rfl, Or.inl rfl⟩

variable {i : Ino} {d d' : Disk}

namespace Alike

variable (h : d.Alike i d')

include h

theorem node?_cases (j : Ino) :
    d'.node? j = d.node? j ∨ ∃ content content' rights, j = i ∧
      d.node? j = some (.regular content rights) ∧
      d'.node? j = some (.regular content' rights) := by
  by_cases hj : j = i
  · subst hj
    exact h.file.imp id fun ⟨content, content', rights, hn, hn'⟩ =>
      ⟨content, content', rights, rfl, hn, hn'⟩
  · exact Or.inl (h.others j hj)

theorem size : d'.nodes.size = d.nodes.size := by
  have hnone (j : Ino) : d'.node? j = none ↔ d.node? j = none := by
    rcases h.node?_cases j with hj | ⟨content, content', rights, -, hn, hn'⟩
    · rw [hj]
    · simp [hn, hn']
  simp only [node?, Array.getElem?_eq_none_iff] at hnone
  exact Nat.le_antisymm ((hnone _).mpr (Nat.le_refl _)) ((hnone _).mp (Nat.le_refl _))

theorem tree : d.SameTree d' := by
  refine ⟨h.size, fun j => ?_, fun j => ?_⟩
  all_goals
    rcases h.node?_cases j with hj | ⟨content, content', rights, -, hn, hn'⟩
  · rw [directory?, directory?, hj]
  · simp [directory?, hn, hn']
  · rw [link?, link?, hj]
  · simp [link?, hn, hn']

/-! ## Changing both -/

theorem setNode (j : Ino) (n : Node) : (d.setNode j n).Alike i (d'.setNode j n) := by
  have hnode (k : Ino) (hk : d'.node? k = d.node? k) :
      (d'.setNode j n).node? k = (d.setNode j n).node? k := by
    rw [node?_setNode, node?_setNode, h.size, hk]
  refine ⟨fun k hk => hnode k (h.others k hk), ?_⟩
  rcases h.file with hi | ⟨content, content', rights, hn, hn'⟩
  · exact Or.inl (hnode i hi)
  · rw [node?_setNode, node?_setNode, h.size]
    split
    · exact Or.inl rfl
    · exact Or.inr ⟨content, content', rights, hn, hn'⟩

theorem contents {rights : Nat} {before before' : Bytes}
    (hn : d.node? i = some (.regular before rights))
    (hn' : d'.node? i = some (.regular before' rights)) (content content' : Bytes) :
    (d.setNode i (.regular content rights)).Alike i (d'.setNode i (.regular content' rights)) := by
  refine ⟨fun j hj => ?_, Or.inr ⟨content, content', rights, ?_, ?_⟩⟩
  · rw [node?_setNode, node?_setNode, if_neg fun h => hj h.1.symm, if_neg fun h => hj h.1.symm,
      h.others j hj]
  · rw [node?_setNode, if_pos ⟨rfl, node?_lt hn⟩]
  · rw [node?_setNode, if_pos ⟨rfl, node?_lt hn'⟩]

theorem push (n : Node) : Alike i ⟨d.nodes.push n⟩ ⟨d'.nodes.push n⟩ := by
  have hnode (k : Ino) (hk : d'.node? k = d.node? k) :
      (Disk.mk (d'.nodes.push n)).node? k = (Disk.mk (d.nodes.push n)).node? k := by
    rw [node?_push, node?_push, h.size, hk]
  refine ⟨fun k hk => hnode k (h.others k hk), ?_⟩
  rcases h.file with hi | ⟨content, content', rights, hn, hn'⟩
  · exact Or.inl (hnode i hi)
  · rw [node?_push, node?_push, h.size]
    split
    · exact Or.inl rfl
    · exact Or.inr ⟨content, content', rights, hn, hn'⟩

theorem create (dir : Ino) (name : String) (n : Node) :
    (d.create dir name n).2.Alike i (d'.create dir name n).2 := by
  unfold Disk.create
  rcases h.node?_cases dir with hdir | ⟨content, content', rights, -, hn, hn'⟩
  · rw [hdir, h.size]
    split
    · exact (h.setNode _ _).push n
    · exact h.push n
  · rw [hn, hn']
    exact h.push n

theorem regular {j rights : Nat} {content : Bytes}
    (hn : d.node? j = some (.regular content rights)) :
    ∃ content', d'.node? j = some (.regular content' rights) := by
  rcases h.node?_cases j with hj | ⟨before, content', rights', -, hbefore, hn'⟩
  · exact ⟨content, hj.trans hn⟩
  · cases hn.symm.trans hbefore
    exact ⟨content', hn'⟩

theorem openForWriting (cwd : Ino) (path : String) (mode : OpenMode) :
    Same (fun a a' => a'.1 = a.1 ∧ a.2.Alike i a'.2) (d.openForWriting cwd path mode)
      (d'.openForWriting cwd path mode) := by
  -- A file that is empty already counts as one that was emptied.
  have hemptied {d : Disk} {j rights : Nat} {content : Bytes}
      (hn : d.node? j = some (.regular content rights)) :
      (if content = [] then d else d.setNode j (.regular [] rights)) =
        d.setNode j (.regular [] rights) := by
    split
    · next hc =>
      subst hc
      exact (setNode_self hn).symm
    · rfl
  unfold Disk.openForWriting
  rw [h.tree.place]
  cases d.place .create cwd path with
  | error e => exact .error e
  | ok p =>
    cases p with
    | vacant dir name =>
      simp only [h.tree.isAttached]
      split
      · refine .ok ⟨?_, h.create dir name _⟩
        rw [create_fst, create_fst, h.size]
      · exact .error _
    | found j =>
      simp only
      by_cases hfile : ∃ content rights, d.node? j = some (.regular content rights)
      · obtain ⟨content, rights, hn⟩ := hfile
        obtain ⟨content', hn'⟩ := h.regular hn
        rw [hn, hn']
        simp only [hemptied hn, hemptied hn']
        split
        · exact .error _
        · cases mode with
          | append => exact .ok ⟨rfl, h⟩
          | overwrite => exact .ok ⟨rfl, h.setNode j _⟩
      · have hj : d'.node? j = d.node? j := by
          refine (h.node?_cases j).resolve_right ?_
          rintro ⟨content, content', rights, -, hn, -⟩
          exact hfile ⟨content, rights, hn⟩
        rw [hj]
        split
        · next content rights hn => exact absurd ⟨content, rights, hn⟩ hfile
        · exact .error _
        · exact .ok ⟨rfl, h⟩
        · exact .error _

end Alike

end Disk

/-- The handles may differ in where they stand, when they go to the end of the file anyway. -/
def Handle.Alike (h h' : Handle) : Prop :=
  ∃ offset, (h.mode = .overwrite → offset = h.offset) ∧ h' = { h with offset }

namespace Disk

variable {i : Ino}

theorem alike_writeAt {d d' : Disk} (h : d.Alike i d') {j offset offset' : Nat} (bytes : Bytes)
    (ho : d'.node? j = d.node? j → offset' = offset) :
    Same (Alike i) (d.writeAt j offset bytes) (d'.writeAt j offset' bytes) := by
  unfold writeAt
  rcases h.node?_cases j with hj | ⟨content, content', rights, rfl, hn, hn'⟩
  · rw [hj, ho hj]
    split
    · exact .ok (h.setNode j _)
    · exact .ok h
    iterate 2
      · split
        · exact .ok h
        · exact .error _
    · exact .error _
  · rw [hn, hn']
    exact .ok (h.contents hn hn' _ _)

theorem alike_emit (bytes : Bytes) :
    Twin (Handle.Beside (Alike i) Handle.Alike) (Handle.emit bytes) := by
  rintro ⟨h, d⟩ ⟨_, d'⟩ ⟨⟨offset, ho, rfl⟩, hd⟩
  simp only at ho hd
  have hposition (hn : d'.node? h.node = d.node? h.node ∨ h.mode = .overwrite) :
      Handle.position { h with offset } d' = h.position d := by
    unfold Handle.position
    cases hm : h.mode with
    | append =>
      have hnode : d'.node? h.node = d.node? h.node := hn.resolve_right (by simp [hm])
      rw [Disk.size, Disk.size, hnode]
    | overwrite => exact ho hm
  have hwrite := alike_writeAt hd bytes fun hn => hposition (Or.inl hn)
  simp only [TwinAt, Handle.emit_eq]
  generalize d.writeAt h.node (h.position d) bytes = x,
    d'.writeAt h.node (Handle.position { h with offset } d') bytes = x' at hwrite
  cases hwrite with
  | error e => exact ⟨_, _, _, rfl, rfl, ⟨offset, ho, rfl⟩, hd⟩
  | ok hok =>
    refine ⟨_, _, _, rfl, rfl, ⟨_, fun hm => ?_, rfl⟩, hok⟩
    rw [hposition (Or.inr hm)]

theorem alike_parallel (i : Ino) : Parallel (Alike i) Handle.Alike where
  tree := Alike.tree
  openAt := by
    intro d d' h cwd path mode
    have hopen := h.openForWriting cwd path mode
    unfold Handle.openAt
    generalize d.openForWriting cwd path mode = x, d'.openForWriting cwd path mode = x' at hopen
    cases hopen with
    | error e => exact .error e
    | @ok opened opened' hok =>
      obtain ⟨j, e⟩ := opened
      obtain ⟨_, e'⟩ := opened'
      obtain ⟨rfl, hee⟩ := hok
      exact .ok ⟨⟨0, fun _ => rfl, rfl⟩, hee⟩
  text := by
    rintro h _ ⟨offset, -, rfl⟩
    rfl
  block := by
    rintro h _ ⟨offset, -, rfl⟩
    rfl
  setText := by
    rintro h _ ⟨offset, ho, rfl⟩ text
    exact ⟨offset, ho, rfl⟩
  setBlock := by
    rintro h _ ⟨offset, ho, rfl⟩ block
    exact ⟨offset, ho, rfl⟩
  emit := alike_emit

end Disk

end CommandShell
