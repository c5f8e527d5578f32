import CommandShell.Proofs.Disk.Kind
import CommandShell.Proofs.Text.Separated

/-!
# Following names

Where a path ends depends on directories and links alone.
-/

namespace CommandShell

namespace Disk

def directory? (d : Disk) (i : Ino) : Option (Ino × List (String × Ino)) :=
  match d.node? i with
  | some (.directory parent entries) => some (parent, entries)
  | _ => none

def link? (d : Disk) (i : Ino) : Option String :=
  match d.node? i with
  | some (.link target) => some target
  | _ => none

theorem directory?_eq_some {d : Disk} {i parent : Ino} {entries : List (String × Ino)} :
    d.directory? i = some (parent, entries) ↔ d.node? i = some (.directory parent entries) := by
  rw [directory?]
  cases d.node? i with
  | none => simp
  | some n => cases n <;> simp

theorem advance_cons (d : Disk) (intent : Intent) (dir : Ino) (name : String)
    (rest : List String) :
    d.advance intent dir (name :: rest) =
      match d.directory? dir with
      | none => .failed .notDirectory
      | some (parent, entries) =>
        if intent = .create ∧ rest = [""] then .failed .isDirectory
        else if name = "" ∨ name = "." then d.advance intent dir rest
        else if name = ".." then d.advance intent parent rest
        else if name.utf8ByteSize > nameLimit then .failed .nameTooLong
        else match entries.lookup name with
          | none => if rest = [] then .vacant dir name else .failed .noEntry
          | some i =>
            match d.link? i with
            | some target => .link dir target rest
            | none => d.advance intent i rest := by
  rw [advance, directory?]
  cases d.node? dir with
  | none => rfl
  | some n =>
    cases n with
    | directory parent entries =>
      simp only
      split
      · rfl
      · split
        · rfl
        · split
          · rfl
          · split
            · rfl
            · cases entries.lookup name with
              | none => rfl
              | some i =>
                simp only [link?]
                cases d.node? i with
                | none => rfl
                | some n => cases n <;> rfl
    | _ => rfl

/-- The end of a walk, from where it stops first and from how it goes on after a link. -/
def Stop.resume (s : Stop) (onward : Ino → String → List String → Except Errno Place) :
    Except Errno Place :=
  match s with
  | .found i => .ok (.found i)
  | .vacant dir name => .ok (.vacant dir name)
  | .failed e => .error e
  | .link dir target rest => onward dir target rest

theorem walk_zero (d : Disk) (intent : Intent) (dir : Ino) (names : List String) :
    d.walk intent 0 dir names =
      (d.advance intent dir names).resume fun _ _ _ => .error .tooManyLinks := by
  rw [walk]
  rfl

theorem walk_succ (d : Disk) (intent : Intent) (links : Nat) (dir : Ino) (names : List String) :
    d.walk intent (links + 1) dir names =
      (d.advance intent dir names).resume fun dir target rest =>
        if target.isEmpty then .error .noEntry
        else d.walk intent links (origin dir target) (Disk.names target ++ rest) := by
  rw [walk]
  rfl

theorem entries_eq (d : Disk) (i : Ino) :
    d.entries i = ((d.directory? i).map (·.2)).getD [] := by
  rw [entries, directory?]
  cases d.node? i with
  | none => rfl
  | some n => cases n <;> rfl

theorem isAttached_eq (d : Disk) (i : Ino) :
    d.isAttached i = (decide (i = root) ||
      (d.directory? i).any fun (parent, _) => (d.entries parent).any (·.2 = i)) := by
  rw [isAttached, directory?]
  cases d.node? i with
  | none => rfl
  | some n => cases n <;> rfl

/-! ## The end of a walk -/

def Place.stop : Place → Stop
  | .found i => .found i
  | .vacant dir name => .vacant dir name

theorem resume_ok {s : Stop} {p : Place}
    {onward : Ino → String → List String → Except Errno Place} (h : s.resume onward = .ok p) :
    s = p.stop ∨ ∃ dir target rest, s = .link dir target rest ∧ onward dir target rest = .ok p := by
  cases s with
  | found i =>
    cases h
    exact Or.inl rfl
  | vacant dir name =>
    cases h
    exact Or.inl rfl
  | link dir target rest => exact Or.inr ⟨dir, target, rest, rfl, h⟩
  | failed e => cases h

theorem names_ne_nil (path : String) : names path ≠ [] := by
  intro h
  obtain ⟨hfilter, hlast⟩ := List.append_eq_nil_iff.mp h
  have hne : separate '/' path ≠ [] := by
    simp [separate, separateChars_ne_nil]
  have hmem := List.getLast_mem hne
  have hempty : (separate '/' path).getLast hne ≠ "" := by
    intro he
    simp [List.getLast?_eq_some_getLast hne, he] at hlast
  have hin : (separate '/' path).getLast hne ∈ (separate '/' path).filter (· ≠ "") :=
    List.mem_filter.mpr ⟨hmem, by simpa using hempty⟩
  rw [hfilter] at hin
  cases hin

theorem walk_ok {d : Disk} {intent : Intent} {links : Nat} {dir : Ino} {names : List String}
    {p : Place} (hn : names ≠ []) (h : d.walk intent links dir names = .ok p) :
    ∃ x rest, rest ≠ [] ∧ d.advance intent x rest = p.stop := by
  induction links generalizing dir names with
  | zero =>
    rw [walk_zero] at h
    rcases resume_ok h with hs | ⟨_, _, _, -, ⟨⟩⟩
    exact ⟨dir, names, hn, hs⟩
  | succ links ih =>
    rw [walk_succ] at h
    rcases resume_ok h with hs | ⟨x, target, rest, -, ho⟩
    · exact ⟨dir, names, hn, hs⟩
    · split at ho
      · cases ho
      · exact ih (List.append_ne_nil_of_left_ne_nil (names_ne_nil target) rest) ho

theorem place_ok {d : Disk} {intent : Intent} {cwd : Ino} {path : String} {p : Place}
    (h : d.place intent cwd path = .ok p) :
    ∃ x names, names ≠ [] ∧ d.advance intent x names = p.stop := by
  rw [place] at h
  split at h
  · cases h
  · split at h
    · cases h
    · exact walk_ok (names_ne_nil path) h

theorem advance_step (d : Disk) (intent : Intent) (x : Ino) (name : String)
    (rest : List String) :
    (∃ e, d.advance intent x (name :: rest) = .failed e) ∨
      ∃ parent entries, d.directory? x = some (parent, entries) ∧
        (entries.lookup name = none ∧ d.advance intent x (name :: rest) = .vacant x name ∨
          (∃ target, d.advance intent x (name :: rest) = .link x target rest) ∨
          ∃ y, (y = x ∨ y = parent ∨ ∃ entry ∈ entries, entry.2 = y) ∧
            d.advance intent x (name :: rest) = d.advance intent y rest) := by
  rw [advance_cons]
  cases d.directory? x with
  | none => exact Or.inl ⟨_, rfl⟩
  | some node =>
    obtain ⟨parent, entries⟩ := node
    simp only
    split
    · exact Or.inl ⟨_, rfl⟩
    · split
      · exact Or.inr ⟨parent, entries, rfl, Or.inr (Or.inr ⟨x, Or.inl rfl, rfl⟩)⟩
      · split
        · exact Or.inr ⟨parent, entries, rfl, Or.inr (Or.inr ⟨parent, Or.inr (Or.inl rfl), rfl⟩)⟩
        · split
          · exact Or.inl ⟨_, rfl⟩
          · cases hl : entries.lookup name with
            | none =>
              simp only
              split
              · exact Or.inr ⟨parent, entries, rfl, Or.inl ⟨hl, rfl⟩⟩
              · exact Or.inl ⟨_, rfl⟩
            | some y =>
              have hy : ∃ entry ∈ entries, entry.2 = y := by
                obtain ⟨before, after, he, -⟩ := List.lookup_eq_some_iff.mp hl
                exact ⟨(name, y), by simp [he], rfl⟩
              simp only
              cases d.link? y with
              | none =>
                exact Or.inr ⟨parent, entries, rfl, Or.inr (Or.inr ⟨y, Or.inr (Or.inr hy), rfl⟩)⟩
              | some target =>
                exact Or.inr ⟨parent, entries, rfl, Or.inr (Or.inl ⟨target, rfl⟩)⟩

theorem advance_vacant {d : Disk} {intent : Intent} {x dir : Ino} {names : List String}
    {name : String} (h : d.advance intent x names = .vacant dir name) :
    ∃ parent entries, d.directory? dir = some (parent, entries) ∧ entries.lookup name = none := by
  induction names generalizing x with
  | nil => cases h
  | cons n rest ih =>
    rcases d.advance_step intent x n rest with ⟨e, he⟩ |
      ⟨parent, entries, hx, ⟨hl, he⟩ | ⟨target, he⟩ | ⟨y, -, he⟩⟩
    · rw [he] at h
      cases h
    · rw [he] at h
      cases h
      exact ⟨parent, entries, hx, hl⟩
    · rw [he] at h
      cases h
    · exact ih (he.symm.trans h)

theorem place_vacant {d : Disk} {intent : Intent} {cwd dir : Ino} {path name : String}
    (h : d.place intent cwd path = .ok (.vacant dir name)) :
    ∃ parent entries, d.directory? dir = some (parent, entries) ∧ entries.lookup name = none := by
  obtain ⟨x, names, -, ha⟩ := place_ok h
  exact advance_vacant ha

/-! ## Using and creating -/

theorem advance_use {d : Disk} {x : Ino} {names : List String}
    (h : ∀ e, d.advance .create x names ≠ .failed e) :
    d.advance .use x names = d.advance .create x names := by
  induction names generalizing x with
  | nil => rfl
  | cons name rest ih =>
    rw [advance_cons] at h
    rw [advance_cons, advance_cons]
    cases hx : d.directory? x with
    | none => rfl
    | some node =>
      simp only [hx] at h ⊢
      by_cases hend : rest = [""]
      · simp [hend] at h
      · simp only [hend, and_false, if_false] at h ⊢
        split
        · next hdot =>
          simp only [if_pos hdot] at h
          exact ih h
        · next hdot =>
          simp only [if_neg hdot] at h
          split
          · next hup =>
            simp only [if_pos hup] at h
            exact ih h
          · next hup =>
            simp only [if_neg hup] at h
            split
            · rfl
            · next hlen =>
              simp only [if_neg hlen] at h
              cases hl : node.2.lookup name with
              | none => rfl
              | some y =>
                simp only [hl] at h ⊢
                cases hy : d.link? y with
                | none =>
                  simp only [hy] at h ⊢
                  exact ih h
                | some target => rfl

theorem walk_use {d : Disk} {links : Nat} {dir : Ino} {names : List String} {p : Place}
    (h : d.walk .create links dir names = .ok p) : d.walk .use links dir names = .ok p := by
  induction links generalizing dir names with
  | zero =>
    rw [walk_zero] at h ⊢
    rw [advance_use, h]
    intro e he
    rw [he] at h
    cases h
  | succ links ih =>
    rw [walk_succ] at h ⊢
    have ha : d.advance .use dir names = d.advance .create dir names := by
      refine advance_use fun e he => ?_
      rw [he] at h
      cases h
    rw [ha]
    rcases resume_ok h with hs | ⟨x, target, rest, hs, ho⟩
    · rw [hs]
      cases p <;> rfl
    · rw [hs]
      simp only [Stop.resume]
      split at ho
      · cases ho
      · next ht => rw [if_neg ht, ih ho]

theorem place_use {d : Disk} {cwd : Ino} {path : String} {p : Place}
    (h : d.place .create cwd path = .ok p) : d.place .use cwd path = .ok p := by
  rw [place] at h ⊢
  split at h
  · cases h
  · next hempty =>
    rw [if_neg hempty]
    split at h
    · cases h
    · next hlong =>
      rw [if_neg hlong]
      exact walk_use h

end Disk

end CommandShell
