import CommandShell.Proofs.Disk.Naming

/-!
# What files hold

Opening a file for writing and adding bytes to it change what is found under the paths of that file,
and under no other path.
-/

namespace CommandShell

namespace Disk

def file? (d : Disk) (i : Ino) : Option (Bytes × Nat) :=
  match d.node? i with
  | some (.regular content rights) => some (content, rights)
  | _ => none

def content? (d : Disk) (dir : Ino) (path : String) : Option Bytes :=
  match d.place .use dir path with
  | .ok (.found i) => (d.file? i).map (·.1)
  | _ => none

def fileAt? (d : Disk) (dir : Ino) (path : String) : Option (Bytes × Nat) :=
  match d.place .use dir path with
  | .ok (.found i) => d.file? i
  | _ => none

theorem content?_fileAt (d : Disk) (dir : Ino) (path : String) :
    d.content? dir path = (d.fileAt? dir path).map (·.1) := by
  unfold content? fileAt?
  split <;> rfl

theorem file?_eq_some {d : Disk} {i rights : Nat} {content : Bytes} :
    d.file? i = some (content, rights) ↔ d.node? i = some (.regular content rights) := by
  rw [file?]
  cases d.node? i with
  | none => simp
  | some n => cases n <;> simp

theorem content?_found {d : Disk} {dir i : Ino} {path : String}
    (h : d.place .use dir path = .ok (.found i)) :
    d.content? dir path = (d.file? i).map (·.1) := by
  rw [content?, h]

theorem content?_sameFile {d : Disk} {cwd dir : Ino} {path path' : String}
    (h : d.sameFile cwd path dir path') : d.content? cwd path = d.content? dir path' := by
  obtain ⟨p, hp, hp'⟩ := sameFile_iff.mp h
  rw [content?, content?, hp, hp']

/-! ## One file changed -/

/-- The second disk differs from the first in the content of one file. -/
structure Changes (d d' : Disk) (i : Ino) (content : Bytes) : Prop where
  tree : d.SameTree d'
  file : ∃ before rights, d.file? i = some (before, rights) ∧
    d'.file? i = some (content, rights)
  others : ∀ k, k ≠ i → d'.file? k = d.file? k

theorem setNode_changes {d : Disk} {i rights : Nat} {before : Bytes}
    (h : d.file? i = some (before, rights)) (content : Bytes) :
    d.Changes (d.setNode i (.regular content rights)) i content := by
  have hnode := file?_eq_some.mp h
  have hlt := node?_lt hnode
  have hself : (d.setNode i (.regular content rights)).node? i =
      some (.regular content rights) := by
    rw [node?_setNode, if_pos ⟨rfl, hlt⟩]
  have hother {k : Ino} (hk : k ≠ i) :
      (d.setNode i (.regular content rights)).node? k = d.node? k := by
    rw [node?_setNode, if_neg fun hki => hk hki.1.symm]
  refine ⟨⟨d.size_setNode i _, fun k => ?_, fun k => ?_⟩, ⟨before, rights, h, ?_⟩, fun k hk => ?_⟩
  · by_cases hk : k = i
    · rw [hk, directory?, hself, directory?, hnode]
    · rw [directory?, hother hk, directory?]
  · by_cases hk : k = i
    · rw [hk, link?, hself, link?, hnode]
    · rw [link?, hother hk, link?]
  · rw [file?, hself]
  · rw [file?, hother hk, file?]

theorem setNode_self {d : Disk} {i : Ino} {n : Node} (h : d.node? i = some n) :
    d.setNode i n = d := by
  obtain ⟨nodes⟩ := d
  rw [setNode, Disk.mk.injEq]
  apply Array.ext_getElem?
  intro k
  rw [Array.getElem?_setIfInBounds]
  split
  · next hik =>
    subst hik
    have hlt : i < nodes.size := node?_lt h
    rw [if_pos hlt]
    exact h.symm
  · rfl

/-! ## Places that take a file -/

def Open (d : Disk) : Place → Prop
  | .found i => ∃ content rights, d.file? i = some (content, rights) ∧
      Right.write.isIn rights = true
  | .vacant dir _ => d.isAttached dir = true

/-- The path is one of a regular file that can be opened and written, or one under which a file can
be created. -/
def Writable (d : Disk) (cwd : Ino) (path : String) : Prop :=
  isPathText path = true ∧ ∃ p, d.place .create cwd path = .ok p ∧ d.Open p

/-- The second disk is sound, has the names of the first, and takes what the first takes. -/
structure Preserves (d d' : Disk) : Prop where
  sound : d'.Sound
  names : d.SameNames d'
  places : ∀ {cwd path i}, d.place .use cwd path = .ok (.found i) →
    d'.place .use cwd path = .ok (.found i)
  writable : ∀ {cwd path}, d.Writable cwd path → d'.Writable cwd path

theorem preserves_refl {d : Disk} (hs : d.Sound) : d.Preserves d :=
  ⟨hs, fun _ _ _ _ => rfl, id, id⟩

theorem Preserves.trans {d d' d'' : Disk} (h : d.Preserves d') (h' : d'.Preserves d'') :
    d.Preserves d'' where
  sound := h'.sound
  names := h.names.trans h'.names
  places := fun hp => h'.places (h.places hp)
  writable := fun hw => h'.writable (h.writable hw)

namespace Changes

variable {d d' : Disk} {i : Ino} {content : Bytes} (h : d.Changes d' i content)

include h

theorem writable {cwd : Ino} {path : String} (hw : d.Writable cwd path) :
    d'.Writable cwd path := by
  obtain ⟨hn, p, hp, ho⟩ := hw
  refine ⟨hn, p, by rw [h.tree.place, hp], ?_⟩
  cases p with
  | vacant dir name => exact (h.tree.isAttached dir).trans ho
  | found k =>
    obtain ⟨before, rights, hf, hr⟩ := ho
    by_cases hk : k = i
    · subst hk
      obtain ⟨before', rights', hf', hafter⟩ := h.file
      rw [hf] at hf'
      cases hf'
      exact ⟨content, rights, hafter, hr⟩
    · exact ⟨before, rights, (h.others k hk).trans hf, hr⟩

theorem fileAt?_other {dir : Ino} {path : String}
    (hp : d.place .use dir path ≠ .ok (.found i)) : d'.fileAt? dir path = d.fileAt? dir path := by
  rw [fileAt?, fileAt?, h.tree.place]
  cases hq : d.place .use dir path with
  | error e => rfl
  | ok p =>
    cases p with
    | vacant x name => rfl
    | found k =>
      have hk : k ≠ i := by
        rintro rfl
        exact hp hq
      exact h.others k hk

theorem content?_other {dir : Ino} {path : String}
    (hp : d.place .use dir path ≠ .ok (.found i)) : d'.content? dir path = d.content? dir path := by
  rw [content?_fileAt, content?_fileAt, h.fileAt?_other hp]

theorem preserves (hs : d.Sound) : d.Preserves d' where
  sound := h.tree.sound hs
  names := h.tree.names
  places := fun hp => (h.tree.place _ _ _).trans hp
  writable := h.writable

end Changes

/-! ## One file created -/

structure Creates (d d' : Disk) (dir : Ino) (name : String) : Prop where
  adds : d.Adds d' dir name
  file : ∃ rights, d'.file? d.nodes.size = some ([], rights) ∧ Right.write.isIn rights = true
  others : ∀ k, k ≠ d.nodes.size → d'.file? k = d.file? k

theorem create_creates {d : Disk} {dir parent : Ino} {entries : List (String × Ino)}
    {name : String} (hd : d.directory? dir = some (parent, entries))
    (hl : entries.lookup name = none) {rights : Nat} (hr : Right.write.isIn rights = true) :
    d.Creates (d.create dir name (.regular [] rights)).2 dir name := by
  refine ⟨create_adds hd hl [] rights, ⟨rights, ?_, hr⟩, fun k hk => ?_⟩
  · rw [file?, node?_create_new]
  · have hnode := directory?_eq_some.mp hd
    have hkept : (d.create dir name (.regular [] rights)).2.node? k =
        (d.setNode dir (.directory parent (entries ++ [(name, d.nodes.size)]))).node? k := by
      simp only [create, hnode]
      rw [node?_push, size_setNode, if_neg hk]
    rw [file?, hkept, node?_setNode]
    by_cases hkd : dir = k ∧ dir < d.nodes.size
    · rw [if_pos hkd, file?, ← hkd.1, hnode]
    · rw [if_neg hkd, file?]

namespace Creates

variable {d d' : Disk} {dir : Ino} {name : String} (h : d.Creates d' dir name) (hs : d.Sound)

include h hs

theorem writable {cwd : Ino} {path : String} (hw : d.Writable cwd path) :
    d'.Writable cwd path := by
  obtain ⟨hn, p, hp, ho⟩ := hw
  refine ⟨hn, _, h.adds.place_ok hp, ?_⟩
  unfold Place.filled
  split
  · obtain ⟨rights, hf, hr⟩ := h.file
    exact ⟨[], rights, hf, hr⟩
  · cases p with
    | vacant x name' => exact h.adds.isAttached ho
    | found k =>
      obtain ⟨content, rights, hf, hr⟩ := ho
      have hk : k ≠ d.nodes.size := Nat.ne_of_lt (place_found_lt hs hp)
      exact ⟨content, rights, (h.others k hk).trans hf, hr⟩

theorem fileAt?_other {x : Ino} {path : String}
    (hp : d.place .use x path ≠ .ok (.vacant dir name)) :
    d'.fileAt? x path = d.fileAt? x path := by
  rw [fileAt?, fileAt?]
  cases hq : d.place .use x path with
  | error e =>
    obtain ⟨e', he⟩ := h.adds.place_error hq
    rw [he]
  | ok p =>
    have hne : p ≠ .vacant dir name := fun he => hp (by rw [hq, he])
    rw [h.adds.place_ok hq, Place.filled, if_neg hne]
    cases p with
    | vacant y name' => rfl
    | found k =>
      have hk : k ≠ d.nodes.size := Nat.ne_of_lt (place_found_lt hs hq)
      exact h.others k hk

theorem content?_other {x : Ino} {path : String}
    (hp : d.place .use x path ≠ .ok (.vacant dir name)) :
    d'.content? x path = d.content? x path := by
  rw [content?_fileAt, content?_fileAt, h.fileAt?_other hs hp]

theorem preserves : d.Preserves d' where
  sound := h.adds.sound hs
  names := h.adds.names hs
  places := fun {cwd path i} hp => by
    rw [h.adds.place_ok hp, Place.filled, if_neg (by rintro ⟨⟩)]
  writable := h.writable hs

end Creates

/-! ## Opening -/

/-- What a file starts with when it is opened, from what it held. -/
def start : OpenMode → Option Bytes → Bytes
  | .overwrite, _ => []
  | .append, content? => content?.getD []

/-- The file at a path was opened as a node. -/
structure Opened (d d' : Disk) (cwd : Ino) (path : String) (mode : OpenMode) (i : Ino) : Prop where
  keeps : d.Preserves d'
  place : d'.place .use cwd path = .ok (.found i)
  file : ∃ rights, d'.file? i = some (start mode (d.content? cwd path), rights)
  others : ∀ k, k ≠ i → ∀ f, d.file? k = some f → d'.file? k = some f
  contents : ∀ dir path', ¬ d.sameFile cwd path dir path' →
    d'.content? dir path' = d.content? dir path'

theorem Changes.opened {d d' : Disk} {cwd i : Ino} {path : String} {mode : OpenMode}
    (hs : d.Sound) (hp : d.place .use cwd path = .ok (.found i))
    (h : d.Changes d' i (start mode (d.content? cwd path))) : d.Opened d' cwd path mode i where
  keeps := h.preserves hs
  place := by rw [h.tree.place, hp]
  file := by
    obtain ⟨before, rights, -, hf⟩ := h.file
    exact ⟨rights, hf⟩
  others := fun k hk f hf => (h.others k hk).trans hf
  contents := fun dir path' hne =>
    h.content?_other fun hq => hne (sameFile_iff.mpr ⟨_, hp, hq⟩)

theorem start_vacant {d : Disk} {cwd dir : Ino} {path name : String}
    (hp : d.place .use cwd path = .ok (.vacant dir name)) (mode : OpenMode) :
    start mode (d.content? cwd path) = [] := by
  rw [content?, hp]
  cases mode <;> rfl

theorem Creates.opened {d d' : Disk} {cwd dir : Ino} {path name : String} {mode : OpenMode}
    (hs : d.Sound) (hp : d.place .use cwd path = .ok (.vacant dir name))
    (h : d.Creates d' dir name) : d.Opened d' cwd path mode d.nodes.size where
  keeps := h.preserves hs
  place := by
    rw [h.adds.place_ok hp, Place.filled, if_pos rfl]
  file := by
    obtain ⟨rights, hf, -⟩ := h.file
    exact ⟨rights, start_vacant hp mode ▸ hf⟩
  others := fun k hk f hf => (h.others k hk).trans hf
  contents := fun x path' hne =>
    h.content?_other hs fun hq => hne (sameFile_iff.mpr ⟨_, hp, hq⟩)

theorem open_writable {d : Disk} {cwd : Ino} {path : String} (hs : d.Sound)
    (hw : d.Writable cwd path) (mode : OpenMode) :
    ∃ i d', d.openForWriting cwd path mode = .ok (i, d') ∧ d.Opened d' cwd path mode i := by
  obtain ⟨-, p, hp, ho⟩ := hw
  have hu := place_use hp
  cases p with
  | vacant dir name =>
    obtain ⟨parent, entries, hd, hl⟩ := place_vacant hp
    have hc := create_creates hd hl (show Right.write.isIn 0o644 = true by decide)
    have hi := create_fst d dir name (.regular [] 0o644)
    refine ⟨d.nodes.size, (d.create dir name (.regular [] 0o644)).2, ?_, hc.opened hs hu⟩
    have ha : d.isAttached dir = true := ho
    simp only [openForWriting, hp, ha, if_true, ← hi]
  | found i =>
    obtain ⟨content, rights, hf, hr⟩ := ho
    have hnode := file?_eq_some.mp hf
    have hcontent : d.content? cwd path = some content := by
      rw [content?_found hu, hf]
      rfl
    cases mode with
    | append =>
      -- Nothing changes, which is to say that the file gets the content that it has.
      refine ⟨i, d, by simp [openForWriting, hp, hnode, hr], Changes.opened hs hu ?_⟩
      have hc := setNode_changes hf content
      rw [setNode_self hnode] at hc
      rwa [hcontent]
    | overwrite =>
      have hc : d.Opened (d.setNode i (.regular [] rights)) cwd path .overwrite i :=
        Changes.opened hs hu (setNode_changes hf [])
      refine ⟨i, d.setNode i (.regular [] rights), ?_, hc⟩
      simp only [openForWriting, hp, hnode, hr]
      by_cases he : content = []
      · subst he
        simp [setNode_self hnode]
      · simp [he]

/-! ## Adding bytes -/

def append (d : Disk) (i : Ino) (bytes : Bytes) : Disk :=
  match d.file? i with
  | some (content, rights) => d.setNode i (.regular (content ++ bytes) rights)
  | none => d

theorem append_file {d : Disk} {i rights : Nat} {content : Bytes}
    (h : d.file? i = some (content, rights)) (bytes : Bytes) :
    d.append i bytes = d.setNode i (.regular (content ++ bytes) rights) := by
  rw [append, h]

theorem append_none {d : Disk} {i : Ino} (h : d.file? i = none) (bytes : Bytes) :
    d.append i bytes = d := by
  rw [append, h]

theorem append_changes {d : Disk} {i rights : Nat} {content : Bytes}
    (h : d.file? i = some (content, rights)) (bytes : Bytes) :
    d.Changes (d.append i bytes) i (content ++ bytes) := by
  rw [append_file h]
  exact setNode_changes h _

theorem append_nil (d : Disk) (i : Ino) : d.append i [] = d := by
  cases h : d.file? i with
  | none => rw [append_none h]
  | some f => rw [append_file h, List.append_nil, setNode_self (file?_eq_some.mp h)]

theorem file?_append_self {d : Disk} {i rights : Nat} {content : Bytes}
    (h : d.file? i = some (content, rights)) (bytes : Bytes) :
    (d.append i bytes).file? i = some (content ++ bytes, rights) := by
  have hlt := node?_lt (file?_eq_some.mp h)
  rw [append_file h, file?_eq_some, node?_setNode, if_pos ⟨rfl, hlt⟩]

theorem file?_append_ne (d : Disk) {i k : Ino} (hk : k ≠ i) (bytes : Bytes) :
    (d.append i bytes).file? k = d.file? k := by
  cases h : d.file? i with
  | none => rw [append_none h]
  | some f => exact (append_changes h bytes).others k hk

theorem sameTree_append (d : Disk) (i : Ino) (bytes : Bytes) : d.SameTree (d.append i bytes) := by
  cases h : d.file? i with
  | none =>
    rw [append_none h]
    exact ⟨rfl, fun _ => rfl, fun _ => rfl⟩
  | some f => exact (append_changes h bytes).tree

theorem append_append (d : Disk) (i : Ino) (bytes bytes' : Bytes) :
    (d.append i bytes).append i bytes' = d.append i (bytes ++ bytes') := by
  cases h : d.file? i with
  | none => rw [append_none h, append_none h, append_none h]
  | some f =>
    rw [append_file (file?_append_self h bytes), append_file h, append_file h, List.append_assoc]
    simp [setNode]

end Disk

end CommandShell
