import CommandShell.Disk.Walk

/-!
# Kinds of nodes

Opening and writing files changes what nodes hold, never what they are.
-/

namespace CommandShell

inductive Kind
  | directory
  | regular
  | link
  | device (device : Device)
  deriving DecidableEq

inductive Kind.IsOpen : Kind → Prop
  | regular : IsOpen .regular
  | null : IsOpen (.device .null)
  | failing (e : Errno) : IsOpen (.device (.failing e))

def Node.kind : Node → Kind
  | .directory .. => .directory
  | .regular .. => .regular
  | .link _ => .link
  | .device d => .device d

namespace Disk

def kind? (d : Disk) (i : Ino) : Option Kind := (d.node? i).map Node.kind

def Grows (d d' : Disk) : Prop := ∀ i k, d.kind? i = some k → d'.kind? i = some k

theorem grows_refl (d : Disk) : d.Grows d := fun _ _ h => h

theorem Grows.trans {d d' d'' : Disk} (h : d.Grows d') (h' : d'.Grows d'') : d.Grows d'' :=
  fun i k hk => h' i k (h i k hk)

/-- The error with which every write to a node fails. -/
def writeError? (d : Disk) (i : Ino) : Option Errno :=
  match d.kind? i with
  | some (.device (.failing e)) => some e
  | _ => none

theorem writeError?_eq_some {d : Disk} {i : Ino} {e : Errno} :
    d.writeError? i = some e ↔ d.kind? i = some (.device (.failing e)) := by
  unfold writeError?
  split
  · next e' h => simp [h]
  · next h =>
    constructor
    · rintro ⟨⟩
    · exact fun hk => absurd hk (h e)

theorem writeError?_grows {d d' : Disk} {i : Ino} {e : Errno} (h : d.writeError? i = some e)
    (hg : d.Grows d') : d'.writeError? i = some e :=
  writeError?_eq_some.mpr (hg i _ (writeError?_eq_some.mp h))

theorem node?_failing {d : Disk} {i : Ino} {e : Errno} (h : d.writeError? i = some e) :
    d.node? i = some (.device (.failing e)) := by
  obtain ⟨n, hn, hk⟩ := Option.map_eq_some_iff.mp (writeError?_eq_some.mp h)
  cases n with
  | device device =>
    cases hk
    exact hn
  | _ => cases hk

/-! ## Replacing and adding nodes -/

theorem node?_lt {d : Disk} {i : Ino} {n : Node} (h : d.node? i = some n) : i < d.nodes.size := by
  rw [node?, Array.getElem?_eq_some_iff] at h
  exact h.1

theorem node?_setNode (d : Disk) (i j : Ino) (n : Node) :
    (d.setNode i n).node? j = if i = j ∧ i < d.nodes.size then some n else d.node? j := by
  simp only [node?, setNode, Array.getElem?_setIfInBounds]
  by_cases hij : i = j
  · subst hij
    by_cases hi : i < d.nodes.size
    · simp [hi]
    · simp [hi]
  · simp [hij]

theorem grows_setNode {d : Disk} {i : Ino} {n n' : Node} (h : d.node? i = some n)
    (hk : n'.kind = n.kind) : d.Grows (d.setNode i n') := by
  intro j k hj
  rw [kind?, node?_setNode]
  split
  · next hij =>
    rw [← hij.1, kind?, h] at hj
    rw [← hj, Option.map_some, Option.map_some, hk]
  · exact hj

theorem node?_push (d : Disk) (n : Node) (j : Ino) :
    (Disk.mk (d.nodes.push n)).node? j = if j = d.nodes.size then some n else d.node? j := by
  simp only [node?, Array.getElem?_push]

theorem grows_push (d : Disk) (n : Node) : d.Grows ⟨d.nodes.push n⟩ := by
  intro j k hj
  rw [kind?, node?_push, if_neg]
  · exact hj
  · rintro rfl
    obtain ⟨n', hn', -⟩ := Option.map_eq_some_iff.mp hj
    exact absurd (node?_lt hn') (Nat.lt_irrefl _)

theorem create_fst (d : Disk) (dir : Ino) (name : String) (n : Node) :
    (d.create dir name n).1 = d.nodes.size := by
  unfold create
  split <;> rfl

theorem size_setNode (d : Disk) (i : Ino) (n : Node) :
    (d.setNode i n).nodes.size = d.nodes.size := by
  simp [setNode]

theorem node?_create_new (d : Disk) (dir : Ino) (name : String) (n : Node) :
    (d.create dir name n).2.node? d.nodes.size = some n := by
  unfold create
  split
  · rw [node?_push, size_setNode, if_pos rfl]
  · rw [node?_push, if_pos rfl]

theorem grows_create (d : Disk) (dir : Ino) (name : String) (n : Node) :
    d.Grows (d.create dir name n).2 := by
  unfold create
  split
  · next parent entries h =>
    have hset : d.Grows (d.setNode dir (.directory parent (entries ++ [(name, d.nodes.size)]))) :=
      grows_setNode h rfl
    exact hset.trans (grows_push _ n)
  · exact grows_push d n

/-! ## Opening and writing -/

theorem writeAt_ok {d d' : Disk} {i : Ino} {offset : Nat} {bytes : Bytes}
    (h : d.writeAt i offset bytes = .ok d') :
    (∃ content mode, d.node? i = some (.regular content mode) ∧
      d' = d.setNode i (.regular (overlay content offset bytes) mode)) ∨ d' = d := by
  unfold writeAt at h
  split at h
  · next content mode hn =>
    cases h
    exact Or.inl ⟨content, mode, hn, rfl⟩
  · cases h
    exact Or.inr rfl
  iterate 2
    · split at h
      · cases h
        exact Or.inr rfl
      · cases h
  · cases h

theorem writeAt_grows {d d' : Disk} {i : Ino} {offset : Nat} {bytes : Bytes}
    (h : d.writeAt i offset bytes = .ok d') : d.Grows d' := by
  rcases writeAt_ok h with ⟨content, mode, hn, rfl⟩ | rfl
  · exact grows_setNode hn rfl
  · exact grows_refl _

theorem open_kind {d d' : Disk} {cwd i : Ino} {path : String} {mode : OpenMode}
    (h : d.openForWriting cwd path mode = .ok (i, d')) :
    d.Grows d' ∧ ∃ k, d'.kind? i = some k ∧ k.IsOpen := by
  unfold openForWriting at h
  split at h
  · cases h
  · next dir name hplace =>
    split at h
    · obtain ⟨hi, hd⟩ := Prod.ext_iff.mp (Except.ok.inj h)
      subst hi hd
      refine ⟨grows_create d dir name _, .regular, ?_, .regular⟩
      rw [create_fst, kind?, node?_create_new]
      rfl
    · cases h
  · next j hplace =>
    split at h
    · next content rights hn =>
      split at h
      · cases h
      · have hkind : d.kind? j = some .regular := by rw [kind?, hn]; rfl
        split at h
        · cases h
          exact ⟨grows_refl d, .regular, hkind, .regular⟩
        · obtain ⟨rfl, rfl⟩ := Prod.mk.inj (Except.ok.inj h)
          split
          · exact ⟨grows_refl d, .regular, hkind, .regular⟩
          · have hg : d.Grows (d.setNode j (.regular [] rights)) := grows_setNode hn rfl
            exact ⟨hg, .regular, hg j _ hkind, .regular⟩
    · cases h
    · next device hsealed hn =>
      cases h
      refine ⟨grows_refl d, .device device, by rw [kind?, hn]; rfl, ?_⟩
      cases device with
      | null => exact .null
      | failing e => exact .failing e
      | sealed e => exact absurd rfl (hsealed e)
    · cases h

theorem open_writeError {d d' : Disk} {cwd i : Ino} {path : String} {mode : OpenMode}
    (h : d.openForWriting cwd path mode = .ok (i, d')) :
    d'.writeError? i = match d.place .create cwd path with
      | .ok (.found j) => d.writeError? j
      | _ => none := by
  have hg := (open_kind h).1
  unfold openForWriting at h
  split at h
  · cases h
  · next dir name hplace =>
    split at h
    · obtain ⟨hi, hd⟩ := Prod.ext_iff.mp (Except.ok.inj h)
      subst hi hd
      simp [writeError?, create_fst, kind?, node?_create_new, Node.kind, hplace]
    · cases h
  · next j hplace =>
    have hsame : i = j := by
      grind
    subst hsame
    cases hn : d.node? i with
    | none => simp [hn] at h
    | some n =>
      have hk : d.kind? i = some n.kind := by rw [kind?, hn]; rfl
      simp only [hplace, writeError?, hg i _ hk, hk]

end Disk

end CommandShell
