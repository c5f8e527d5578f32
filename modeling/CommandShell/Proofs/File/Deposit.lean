import CommandShell.Proofs.Command.Route
import CommandShell.Proofs.File.Fresh
import CommandShell.Proofs.File.Spares

/-!
# Writing a whole text at once

A file that is opened, written and closed takes a text behind what it starts with, or the system
refuses it and nothing is changed. Whether it does depends on where its path leads, and not on what
was written to another file before.
-/

namespace CommandShell

/-- The node can be opened for writing and takes these bytes. -/
def Node.admits (bytes : Bytes) : Node → Bool
  | .regular _ rights => Right.write.isIn rights
  | .device .null => true
  | .device (.failing _) => bytes.isEmpty
  | .device (.sealed _) | .directory .. | .link _ => false

namespace Disk

variable {d d' d'' : Disk} {cwd i : Ino} {path : String} {mode : OpenMode} {bytes : Bytes}

/-- Opens the file at a path and adds bytes to it. -/
def deposit (d : Disk) (cwd : Ino) (path : String) (mode : OpenMode) (bytes : Bytes) :
    Except Errno Disk :=
  match d.openForWriting cwd path mode with
  | .error e => .error e
  | .ok (i, d) =>
    match d.writeError? i, bytes with
    | some e, _ :: _ => .error e
    | _, _ => .ok (d.append i bytes)

theorem deposit_ok (h : d.deposit cwd path mode bytes = .ok d') :
    ∃ i d₀, d.openForWriting cwd path mode = .ok (i, d₀) ∧ d' = d₀.append i bytes := by
  unfold deposit at h
  split at h
  · cases h
  · next i d₀ hopen =>
    split at h
    · cases h
    · cases h
      exact ⟨i, d₀, hopen, rfl⟩

/-! ## What is written -/

theorem deposit_spares {among : String → Prop} (hs : d.Sound) (hamong : among path)
    (h : d.deposit cwd path mode bytes = .ok d') : d.Spares among cwd d' := by
  obtain ⟨i, d₀, hopen, rfl⟩ := deposit_ok h
  obtain ⟨hspares, hplace⟩ := spares_open hs hamong hopen
  refine hspares.trans ?_
  cases hf : d₀.file? i with
  | none =>
    rw [append_none hf]
    exact spares_refl hspares.sound
  | some f => exact (append_changes hf bytes).spares hspares.sound hamong hplace

theorem deposit_stores (hs : d.Sound) (hfile : ¬ d.IsDevice cwd path)
    (h : d.deposit cwd path mode bytes = .ok d') {dir : Ino} {path' : String}
    (hsame : d.sameFile cwd path dir path' = true) :
    d'.content? dir path' = some (start mode (d.content? dir path') ++ bytes) := by
  obtain ⟨i, d₀, hopen, rfl⟩ := deposit_ok h
  have hopened := (open_ways hopen).opened hs hfile
  have hsame₀ := (hopened.keeps.names cwd path dir path').trans hsame
  rw [append_contents hopened.place, if_pos hsame₀, opened_contents hopened, if_pos hsame]
  rfl

/-! ## What can be written -/

def admits (d : Disk) (bytes : Bytes) : Place → Bool
  | .vacant dir _ => d.isAttached dir
  | .found i => (d.node? i).any (·.admits bytes)

theorem deposit_vacant {dir : Ino} {name : String}
    (hp : d.place .create cwd path = .ok (.vacant dir name)) :
    (d.deposit cwd path mode bytes).isOk = d.isAttached dir := by
  have hnone : (d.create dir name (.regular [] 0o644)).2.writeError?
      (d.create dir name (.regular [] 0o644)).1 = none := by
    rw [create_fst, writeError?, kind?, node?_create_new]
    rfl
  cases ha : d.isAttached dir <;>
    simp [deposit, openForWriting, hp, ha, hnone, Except.isOk, Except.toBool]

theorem deposit_found {n : Node} (hp : d.place .create cwd path = .ok (.found i))
    (hn : d.node? i = some n) : (d.deposit cwd path mode bytes).isOk = n.admits bytes := by
  have hkind : d.kind? i = some n.kind := by rw [kind?, hn]; rfl
  have hset (content : Bytes) (rights : Nat) :
      (d.setNode i (.regular content rights)).writeError? i = none := by
    rw [writeError?, kind?, node?_setNode, if_pos ⟨rfl, node?_lt hn⟩]
    rfl
  unfold deposit openForWriting
  cases n with
  | regular content rights =>
    have hnone : d.writeError? i = none := by rw [writeError?, hkind]; rfl
    cases hr : Right.write.isIn rights <;> cases mode <;> by_cases hc : content = [] <;>
      simp [hp, hn, hr, hc, hnone, hset, Node.admits, Except.isOk, Except.toBool]
  | device device =>
    cases device <;> cases bytes <;>
      simp [hp, hn, writeError?, hkind, Node.kind, Node.admits, Except.isOk, Except.toBool]
  | directory parent entries => simp [hp, hn, Node.admits, Except.isOk, Except.toBool]
  | link target => simp [hp, hn, Node.admits, Except.isOk, Except.toBool]

theorem deposit_isOk (d : Disk) (cwd : Ino) (path : String) (mode : OpenMode) (bytes : Bytes) :
    (d.deposit cwd path mode bytes).isOk =
      match d.place .create cwd path with
      | .ok p => d.admits bytes p
      | .error _ => false := by
  cases hp : d.place .create cwd path with
  | error e => simp [deposit, openForWriting, hp, Except.isOk, Except.toBool]
  | ok p =>
    cases p with
    | vacant dir name => exact deposit_vacant hp
    | found i =>
      cases hn : d.node? i with
      | none => simp [deposit, openForWriting, hp, hn, admits, Except.isOk, Except.toBool]
      | some n =>
        rw [deposit_found hp hn]
        simp [admits, hn]

def KeepsAccess (d d' : Disk) : Prop :=
  ∀ k n, d.node? k = some n → ∃ n', d'.node? k = some n' ∧ ∀ bytes, n'.admits bytes = n.admits bytes

theorem KeepsAccess.trans (h : d.KeepsAccess d') (h' : d'.KeepsAccess d'') : d.KeepsAccess d'' := by
  intro k n hn
  obtain ⟨n', hn', hsame⟩ := h k n hn
  obtain ⟨n'', hn'', hsame'⟩ := h' k n' hn'
  exact ⟨n'', hn'', fun bytes => (hsame' bytes).trans (hsame bytes)⟩

theorem keepsAccess_refl (d : Disk) : d.KeepsAccess d := fun _ n hn => ⟨n, hn, fun _ => rfl⟩

theorem keepsAccess_setNode {n n' : Node} (hn : d.node? i = some n)
    (hsame : ∀ bytes, n'.admits bytes = n.admits bytes) : d.KeepsAccess (d.setNode i n') := by
  intro k m hm
  rw [node?_setNode]
  split
  · next hik =>
    obtain rfl := Option.some.inj (hn.symm.trans (hik.1 ▸ hm))
    exact ⟨n', rfl, hsame⟩
  · exact ⟨m, hm, fun _ => rfl⟩

theorem keepsAccess_append (d : Disk) (i : Ino) (bytes : Bytes) :
    d.KeepsAccess (d.append i bytes) := by
  cases hf : d.file? i with
  | none =>
    rw [append_none hf]
    exact d.keepsAccess_refl
  | some f =>
    rw [append_file hf]
    exact keepsAccess_setNode (file?_eq_some.mp hf) fun _ => rfl

theorem keepsAccess_create (d : Disk) (dir : Ino) (name : String) (n : Node) :
    d.KeepsAccess (d.create dir name n).2 := by
  have hpush (d : Disk) : d.KeepsAccess ⟨d.nodes.push n⟩ := by
    intro k m hm
    rw [node?_push, if_neg (Nat.ne_of_lt (node?_lt hm))]
    exact ⟨m, hm, fun _ => rfl⟩
  unfold create
  split
  · next parent entries hdir =>
    refine KeepsAccess.trans ?_ (hpush _)
    exact keepsAccess_setNode hdir fun _ => rfl
  · exact hpush d

theorem Opening.keepsAccess {d₀ : Disk} (h : d.Opening cwd path mode i d₀) : d.KeepsAccess d₀ := by
  cases h with
  | created => exact keepsAccess_create d _ _ _
  | reopened _ hf => exact keepsAccess_setNode (file?_eq_some.mp hf) fun _ => rfl
  | device => exact d.keepsAccess_refl

theorem grows_append (d : Disk) (i : Ino) (bytes : Bytes) : d.Grows (d.append i bytes) := by
  cases hf : d.file? i with
  | none =>
    rw [append_none hf]
    exact d.grows_refl
  | some f =>
    rw [append_file hf]
    exact grows_setNode (file?_eq_some.mp hf) rfl

theorem deposit_grows (h : d.deposit cwd path mode bytes = .ok d') : d.Grows d' := by
  obtain ⟨i, d₀, hopen, rfl⟩ := deposit_ok h
  exact (open_kind hopen).1.trans (grows_append d₀ i bytes)

/-! ### The tree -/

theorem SameTree.trans (h : d.SameTree d') (h' : d'.SameTree d'') : d.SameTree d'' where
  size := h'.size.trans h.size
  directory := fun i => (h'.directory i).trans (h.directory i)
  link := fun i => (h'.link i).trans (h.link i)

theorem Adds.sameTree {dir : Ino} {name : String} (h : d.Adds d' dir name) (h' : d'.SameTree d'') :
    d.Adds d'' dir name where
  size := h'.size.trans h.size
  directory := by
    obtain ⟨parent, entries, hdir, hfree, hall⟩ := h.directory
    exact ⟨parent, entries, hdir, hfree, fun i => (h'.directory i).trans (hall i)⟩
  link := fun i => (h'.link i).trans (h.link i)

theorem Adds.entries_old {dir x : Ino} {name : String} (h : d.Adds d' dir name)
    {entry : String × Ino} (he : entry ∈ d'.entries x) :
    entry ∈ d.entries x ∨ entry.2 = d.nodes.size := by
  obtain ⟨parent, entries, hdir, -, hall⟩ := h.directory
  rw [entries_eq] at he ⊢
  rw [hall] at he
  split at he
  · next hx =>
    rw [hx, hdir]
    exact (List.mem_append.mp he).imp id fun hnew => by rw [List.mem_singleton.mp hnew]
  · exact Or.inl he

theorem Adds.isAttached_eq {dir x : Ino} {name : String} (h : d.Adds d' dir name)
    (hx : x ≠ d.nodes.size) : d'.isAttached x = d.isAttached x := by
  rw [Bool.eq_iff_iff]
  refine ⟨fun ha => ?_, h.isAttached⟩
  rw [Disk.isAttached_eq, Bool.or_eq_true] at ha ⊢
  refine ha.imp id fun ha => ?_
  cases hdir : d.directory? x with
  | none => simp [h.directory_none hdir] at ha
  | some node =>
    obtain ⟨parent, entries⟩ := node
    obtain ⟨entries', hdir', -⟩ := h.directory_some hdir
    simp only [hdir', Option.any_some, List.any_eq_true, decide_eq_true_eq] at ha ⊢
    obtain ⟨entry, hentry, rfl⟩ := ha
    exact ⟨entry, (h.entries_old hentry).resolve_right hx, rfl⟩

theorem deposit_tree (h : d.deposit cwd path mode bytes = .ok d') :
    d.SameTree d' ∨
      ∃ dir name, d.Adds d' dir name ∧ d.place .use cwd path = .ok (.vacant dir name) := by
  obtain ⟨i, d₀, hopen, rfl⟩ := deposit_ok h
  have happend := d₀.sameTree_append i bytes
  cases open_ways hopen with
  | created hplace hdir hfree =>
    exact Or.inr ⟨_, _, (create_adds hdir hfree [] 0o644).sameTree happend, place_use hplace⟩
  | @reopened _ rights content _ hf =>
    exact Or.inl ((setNode_changes hf (start mode (some content))).tree.trans happend)
  | device => exact Or.inl happend

theorem deposit_isAttached (h : d.deposit cwd path mode bytes = .ok d') {x : Ino}
    (hx : x < d.nodes.size) : d'.isAttached x = d.isAttached x := by
  rcases deposit_tree h with htree | ⟨dir, name, hadds, -⟩
  · exact htree.isAttached x
  · exact hadds.isAttached_eq (Nat.ne_of_lt hx)

theorem deposit_keepsAccess (h : d.deposit cwd path mode bytes = .ok d') : d.KeepsAccess d' := by
  obtain ⟨i, d₀, hopen, rfl⟩ := deposit_ok h
  exact (open_ways hopen).keepsAccess.trans (keepsAccess_append d₀ i bytes)

theorem node?_of_lt (h : i < d.nodes.size) : ∃ n, d.node? i = some n :=
  ⟨d.nodes[i], by simp [node?, h]⟩

theorem admits_kept (h : d.KeepsAccess d') {k : Ino} (hk : k < d.nodes.size) :
    d'.admits bytes (.found k) = d.admits bytes (.found k) := by
  obtain ⟨n, hn⟩ := node?_of_lt hk
  obtain ⟨n', hn', hsame⟩ := h k n hn
  simp [admits, hn, hn', hsame]

section Apart

variable {path' : String} (hs : d.Sound) (h : d.deposit cwd path mode bytes = .ok d')
  (hother : d.sameFile cwd path cwd path' = false)

include h hother

theorem deposit_place (intent : Intent) :
    (∃ p, d.place intent cwd path' = .ok p ∧ d'.place intent cwd path' = .ok p) ∨
      ∃ e e', d.place intent cwd path' = .error e ∧ d'.place intent cwd path' = .error e' := by
  rcases deposit_tree h with htree | ⟨dir, name, hadds, hplace⟩
  · rw [htree.place]
    cases d.place intent cwd path' with
    | error e => exact Or.inr ⟨e, e, rfl, rfl⟩
    | ok p => exact Or.inl ⟨p, rfl, rfl⟩
  · cases hp : d.place intent cwd path' with
    | error e =>
      obtain ⟨e', he⟩ := hadds.place_error hp
      exact Or.inr ⟨e, e', rfl, he⟩
    | ok p =>
      -- The new file is at the first path, so the second one does not come to it.
      have hne : p ≠ .vacant dir name := by
        rintro rfl
        have huse : d.place .use cwd path' = .ok (.vacant dir name) := by
          cases intent with
          | use => exact hp
          | create => exact place_use hp
        have hsame := sameFile_iff.mpr ⟨_, hplace, huse⟩
        rw [hother] at hsame
        cases hsame
      exact Or.inl ⟨p, rfl, by rw [hadds.place_ok hp, Place.filled, if_neg hne]⟩

include hs

theorem deposit_apart (mode' : OpenMode) (bytes' : Bytes) :
    (d'.deposit cwd path' mode' bytes').isOk = (d.deposit cwd path' mode' bytes').isOk := by
  rw [deposit_isOk, deposit_isOk]
  rcases deposit_place h hother .create with ⟨p, hp, hp'⟩ | ⟨e, e', hp, hp'⟩
  · rw [hp, hp']
    cases p with
    | vacant dir name =>
      obtain ⟨parent, entries, hdir, -⟩ := place_vacant hp
      exact deposit_isAttached h (directory?_lt hdir)
    | found k => exact admits_kept (deposit_keepsAccess h) (place_found_lt hs hp)
  · rw [hp, hp']

theorem deposit_isDevice (hdevice : d'.IsDevice cwd path') : d.IsDevice cwd path' := by
  obtain ⟨i, device, hp', hn'⟩ := hdevice
  rcases deposit_place h hother .use with ⟨p, hp, hq⟩ | ⟨e, e', -, hq⟩
  · obtain rfl := Except.ok.inj (hq.symm.trans hp')
    obtain ⟨n, hn⟩ := node?_of_lt (place_found_lt hs hp)
    have hkind := deposit_grows h i n.kind (by rw [kind?, hn]; rfl)
    rw [kind?, hn', Option.map_some, Option.some.injEq] at hkind
    refine ⟨i, device, hp, ?_⟩
    cases n <;> simp [Node.kind] at hkind
    rw [hn, hkind]
  · cases hq.symm.trans hp'

end Apart

end Disk

/-! ## Writing a file -/

theorem opening_failing {d d' : Disk} {cwd i : Ino} {path : String} {mode : OpenMode} {e : Errno}
    (h : d.Opening cwd path mode i d') (he : d'.writeError? i = some e) : d' = d := by
  rcases h.stands with ⟨-, -, -, hd⟩ | ⟨content, rights, hf, -⟩
  · exact hd
  · cases (Disk.file?_eq_some.mp hf).symm.trans (Disk.node?_failing he)

section Write

variable {m : Machine} {path : String} {mode : OpenMode} {i : Ino} {d : Disk}

theorem openAt_opened (ho : m.disk.openForWriting m.cwd path mode = .ok (i, d)) :
    Handle.openAt m.disk m.cwd path mode = .ok ({ node := i, mode }, d) := by
  rw [Handle.openAt, ho]
  rfl

theorem writeFile_failing (text : String) {e : Errno} (hn : Disk.isPathText path = true)
    (ho : m.disk.openForWriting m.cwd path mode = .ok (i, d)) (he : d.writeError? i = some e) :
    m.writeFile path text mode =
      (if Utf8.encode text = [] then .ok () else .error (.system e none), m) := by
  have hopen := openAt_opened ho
  obtain rfl := opening_failing (Disk.open_ways ho) he
  have hidle : Handle.IsIdle { node := i, mode } := ⟨rfl, rfl⟩
  by_cases hb : Utf8.encode text = []
  · have hwrite : Handle.write (Utf8.encode text) ({ node := i, mode }, m.disk) =
        (.ok (), { node := i, mode }, m.disk) := by
      rw [hb]
      rfl
    rw [if_pos hb]
    exact writeFile_opened mode text m hn hopen hwrite (Handle.flush_idle hidle m.disk)
  · have hwrite := Handle.write_stuck he hidle hb
    rw [if_neg hb]
    split at hwrite
    · obtain ⟨h', hflush, -⟩ := Handle.flush_stuck (h := ⟨i, mode, 0, Utf8.encode text, []⟩)
        he fun hi => hb hi.1
      exact writeFile_opened mode text m hn hopen hwrite hflush
    · exact writeFile_opened mode text m hn hopen hwrite (Handle.flush_idle hidle m.disk)

theorem writeFile_flows (text : String) (hn : Disk.isPathText path = true)
    (ho : m.disk.openForWriting m.cwd path mode = .ok (i, d))
    (hnone : d.writeError? i = none) :
    m.writeFile path text mode = (.ok (), { m with disk := d.append i (Utf8.encode text) }) := by
  have hopen := openAt_opened ho
  have hflows := Handle.fresh_flows (Handle.openAt_fresh hopen) hnone
  obtain ⟨h₁, d₁, h₂, hwrite, hflush, -⟩ :=
    Handle.flows_delivered hflows ⟨rfl, rfl⟩ (Utf8.encode text)
  exact writeFile_opened mode text m hn hopen hwrite hflush

/-- Writing a file deposits the text, or fails as the system has it and changes nothing. -/
theorem writeFile_deposit (m : Machine) {path : String} (hn : Disk.isPathText path = true)
    (text : String) (mode : OpenMode) :
    (∃ d, m.disk.deposit m.cwd path mode (Utf8.encode text) = .ok d ∧
      m.writeFile path text mode = (.ok (), { m with disk := d })) ∨
    ∃ e path?, m.disk.deposit m.cwd path mode (Utf8.encode text) = .error e ∧
      m.writeFile path text mode = (.error (.system e path?), m) := by
  cases ho : m.disk.openForWriting m.cwd path mode with
  | error e =>
    have hopen : Handle.openAt m.disk m.cwd path mode = .error e := by
      rw [Handle.openAt, ho]
      rfl
    exact Or.inr ⟨e, some path, by simp [Disk.deposit, ho], writeFile_unopened _ _ _ hn hopen⟩
  | ok opened =>
    obtain ⟨i, d⟩ := opened
    cases he : d.writeError? i with
    | none => exact Or.inl ⟨_, by simp [Disk.deposit, ho, he], writeFile_flows text hn ho he⟩
    | some e =>
      have hwrite := writeFile_failing text hn ho he
      obtain rfl := opening_failing (Disk.open_ways ho) he
      cases hb : Utf8.encode text with
      | nil =>
        rw [if_pos hb] at hwrite
        exact Or.inl ⟨m.disk, by simp [Disk.deposit, ho, Disk.append_nil], hwrite⟩
      | cons b bytes =>
        rw [if_neg (by simp [hb])] at hwrite
        exact Or.inr ⟨e, none, by simp [Disk.deposit, ho, he], hwrite⟩

end Write

end CommandShell
