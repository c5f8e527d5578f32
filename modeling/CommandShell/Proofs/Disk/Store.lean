import CommandShell.Proofs.Disk.Content
import CommandShell.Text.Utf8

/-!
# Targets as a store of files

What bringing a text to a target does to the content found under every path: first the file of the
target starts anew or goes on, then the bytes of the text come behind it.
-/

namespace CommandShell

namespace Target

/-- What a path holds when the target is opened, from what it held. -/
def begin (t : Target) (d : Disk) (cwd dir : Ino) (path : String) (held : Option Bytes) :
    Option Bytes :=
  match t.path? with
  | none => held
  | some target => if d.sameFile cwd target dir path then some (Disk.start t.mode held) else held

def extend (t : Target) (d : Disk) (cwd dir : Ino) (path : String) (bytes : Bytes)
    (held : Option Bytes) : Option Bytes :=
  match t.path? with
  | none => held
  | some target => if d.sameFile cwd target dir path then held.map (· ++ bytes) else held

/-- What a path holds when a text was brought to the target. -/
def store (t : Target) (d : Disk) (cwd : Ino) (text : String) (dir : Ino) (path : String)
    (held : Option Bytes) : Option Bytes :=
  match t.path? with
  | none => held
  | some target =>
    if d.sameFile cwd target dir path then some (Disk.start t.mode held ++ Utf8.encode text)
    else held

theorem store_eq (t : Target) (d : Disk) (cwd : Ino) (text : String) (dir : Ino) (path : String)
    (held : Option Bytes) : t.store d cwd text dir path held =
      t.extend d cwd dir path (Utf8.encode text) (t.begin d cwd dir path held) := by
  unfold store extend begin
  cases t.path? with
  | none => rfl
  | some target =>
    simp only
    split
    · rfl
    · rfl

end Target

namespace Disk

theorem preserves_append {d : Disk} (hs : d.Sound) (i : Ino) (bytes : Bytes) :
    d.Preserves (d.append i bytes) := by
  cases h : d.file? i with
  | none =>
    rw [append_none h]
    exact preserves_refl hs
  | some f => exact (append_changes h bytes).preserves hs

/-! ## One step on the contents -/

theorem opened_contents {d d' : Disk} {cwd i : Ino} {path : String} {mode : OpenMode}
    (h : d.Opened d' cwd path mode i) (dir : Ino) (path' : String) :
    d'.content? dir path' =
      if d.sameFile cwd path dir path' then some (start mode (d.content? dir path'))
      else d.content? dir path' := by
  split
  · next hsame =>
    obtain ⟨rights, hf⟩ := h.file
    rw [← content?_sameFile hsame]
    rw [← h.keeps.names] at hsame
    rw [← content?_sameFile hsame, content?_found h.place, hf]
    rfl
  · next hne => exact h.contents dir path' hne

theorem append_contents {d : Disk} {cwd i : Ino} {path : String}
    (hp : d.place .use cwd path = .ok (.found i)) (bytes : Bytes) (dir : Ino) (path' : String) :
    (d.append i bytes).content? dir path' =
      if d.sameFile cwd path dir path' then (d.content? dir path').map (· ++ bytes)
      else d.content? dir path' := by
  have htree := d.sameTree_append i bytes
  cases hf : d.file? i with
  | none =>
    rw [append_none hf]
    split
    · next hs =>
      rw [← content?_sameFile hs, content?_found hp, hf]
      rfl
    · rfl
  | some f =>
    split
    · next hs =>
      rw [← content?_sameFile hs, content?_found hp, hf]
      rw [← htree.names] at hs
      rw [← content?_sameFile hs, content?_found (htree.place _ _ _ ▸ hp), file?_append_self hf]
      rfl
    · next hs =>
      exact (append_changes hf bytes).content?_other
        fun hq => hs (sameFile_iff.mpr ⟨_, hp, hq⟩)

def appendAt (d : Disk) (port? : Option Ino) (bytes : Bytes) : Disk :=
  match port? with
  | none => d
  | some i => d.append i bytes

theorem appendAt_nil (d : Disk) (port? : Option Ino) : d.appendAt port? [] = d := by
  cases port? with
  | none => rfl
  | some i => exact d.append_nil i

theorem appendAt_appendAt (d : Disk) (port? : Option Ino) (bytes bytes' : Bytes) :
    (d.appendAt port? bytes).appendAt port? bytes' = d.appendAt port? (bytes ++ bytes') := by
  cases port? with
  | none => rfl
  | some i => exact d.append_append i bytes bytes'

theorem preserves_appendAt {d : Disk} (hs : d.Sound) (port? : Option Ino) (bytes : Bytes) :
    d.Preserves (d.appendAt port? bytes) := by
  cases port? with
  | none => exact preserves_refl hs
  | some i => exact preserves_append hs i bytes

theorem append_comm (d : Disk) {i j : Ino} (hij : i ≠ j) (bytes bytes' : Bytes) :
    (d.append i bytes).append j bytes' = (d.append j bytes').append i bytes := by
  cases hi : d.file? i with
  | none =>
    have hi' := (file?_append_ne d hij bytes').trans hi
    rw [append_none hi, append_none hi']
  | some f =>
    have hi' := (file?_append_ne d hij bytes').trans hi
    cases hj : d.file? j with
    | none =>
      have hj' := (file?_append_ne d hij.symm bytes).trans hj
      rw [append_none hj, append_none hj']
    | some g =>
      have hj' := (file?_append_ne d hij.symm bytes).trans hj
      rw [append_file hj', append_file hi', append_file hi, append_file hj]
      simp only [setNode, Array.setIfInBounds_comm _ _ hij]

/-- Two ports lead to different files. -/
def Apart (port? port?' : Option Ino) : Prop := ∀ i, port? = some i → port?' ≠ some i

theorem appendAt_comm (d : Disk) {port? port?' : Option Ino} (h : Apart port? port?')
    (bytes bytes' : Bytes) :
    (d.appendAt port? bytes).appendAt port?' bytes' =
      (d.appendAt port?' bytes').appendAt port? bytes := by
  cases port? with
  | none => rfl
  | some i =>
    cases port?' with
    | none => rfl
    | some j => exact d.append_comm (fun he => h i rfl (by rw [he])) bytes bytes'

end Disk

/-! ## Targets on a disk -/

namespace Target

variable {t : Target} {d d' : Disk} {cwd : Ino} {port? : Option Ino}

/-- The port of a target that has been opened: the file at its path, or nothing for the console. -/
def LeadsTo (t : Target) (d : Disk) (cwd : Ino) (port? : Option Ino) : Prop :=
  match t.path? with
  | none => port? = none
  | some path => ∃ i, port? = some i ∧ d.place .use cwd path = .ok (.found i)

def Opens (t : Target) (d d' : Disk) (cwd : Ino) (port? : Option Ino) : Prop :=
  match t.path? with
  | none => port? = none ∧ d' = d
  | some path => ∃ i, port? = some i ∧ d.Opened d' cwd path t.mode i

theorem opens_leads (h : t.Opens d d' cwd port?) : t.LeadsTo d' cwd port? := by
  unfold Opens at h
  unfold LeadsTo
  cases hp : t.path? with
  | none =>
    rw [hp] at h
    exact h.1
  | some path =>
    rw [hp] at h
    obtain ⟨i, hi, ho⟩ := h
    exact ⟨i, hi, ho.place⟩

theorem leads_preserves (h : t.LeadsTo d cwd port?) (hk : d.Preserves d') :
    t.LeadsTo d' cwd port? := by
  unfold LeadsTo at h ⊢
  cases hp : t.path? with
  | none =>
    rw [hp] at h
    exact h
  | some path =>
    rw [hp] at h
    obtain ⟨i, hi, hplace⟩ := h
    exact ⟨i, hi, hk.places hplace⟩

theorem opens_preserves (hs : d.Sound) (h : t.Opens d d' cwd port?) : d.Preserves d' := by
  unfold Opens at h
  cases hp : t.path? with
  | none =>
    rw [hp] at h
    rw [h.2]
    exact Disk.preserves_refl hs
  | some path =>
    rw [hp] at h
    obtain ⟨i, -, ho⟩ := h
    exact ho.keeps

theorem opens_contents (h : t.Opens d d' cwd port?) (dir : Ino) (path : String) :
    d'.content? dir path = t.begin d cwd dir path (d.content? dir path) := by
  unfold Opens at h
  unfold begin
  cases hp : t.path? with
  | none =>
    rw [hp] at h
    rw [h.2]
  | some target =>
    rw [hp] at h
    obtain ⟨i, -, ho⟩ := h
    exact Disk.opened_contents ho dir path

theorem appendAt_contents (h : t.LeadsTo d cwd port?) (bytes : Bytes) (dir : Ino)
    (path : String) :
    (d.appendAt port? bytes).content? dir path =
      t.extend d cwd dir path bytes (d.content? dir path) := by
  unfold LeadsTo at h
  unfold extend
  cases hp : t.path? with
  | none =>
    rw [hp] at h
    rw [show port? = none from h]
    rfl
  | some target =>
    rw [hp] at h
    obtain ⟨i, rfl, hplace⟩ := h
    exact Disk.append_contents hplace bytes dir path

section Names

variable (hn : d.SameNames d')

include hn

theorem sameFile_names : d'.sameFile = d.sameFile := by
  funext cwd path dir path'
  exact hn cwd path dir path'

theorem begin_names (t : Target) : t.begin d' = t.begin d := by
  funext cwd dir path held
  rw [begin, begin, sameFile_names hn]

theorem extend_names (t : Target) : t.extend d' = t.extend d := by
  funext cwd dir path bytes held
  rw [extend, extend, sameFile_names hn]

theorem store_names (t : Target) : t.store d' = t.store d := by
  funext cwd text dir path held
  rw [store_eq, store_eq, begin_names hn, extend_names hn]

end Names

/-- Two targets that do not name one file. -/
def Distinct (t t' : Target) (d : Disk) (cwd : Ino) : Prop :=
  ∀ path path', t.path? = some path → t'.path? = some path' →
    d.sameFile cwd path cwd path' = false

theorem distinct_names {t t' : Target} (hn : d.SameNames d') (h : t.Distinct t' d cwd) :
    t.Distinct t' d' cwd :=
  fun path path' hp hp' => (hn cwd path cwd path').trans (h path path' hp hp')

theorem opens_console (h : t.Opens d d' cwd port?) : port? = none ↔ t.isConsole = true := by
  unfold Opens at h
  unfold isConsole
  cases hp : t.path? with
  | none =>
    rw [hp] at h
    simp [h.1]
  | some path =>
    rw [hp] at h
    obtain ⟨i, rfl, -⟩ := h
    simp

theorem extend_begin {t t' : Target} (h : t.Distinct t' d cwd) (dir : Ino) (path : String)
    (bytes : Bytes) (held : Option Bytes) :
    t.extend d cwd dir path bytes (t'.begin d cwd dir path held) =
      t'.begin d cwd dir path (t.extend d cwd dir path bytes held) := by
  unfold extend begin
  cases hp : t.path? with
  | none => rfl
  | some target =>
    cases hp' : t'.path? with
    | none => rfl
    | some target' =>
      simp only
      by_cases hs : d.sameFile cwd target dir path = true
      · have hs' : d.sameFile cwd target' dir path ≠ true := by
          intro hs'
          obtain ⟨p, h1, h2⟩ := Disk.sameFile_iff.mp hs
          obtain ⟨p', h1', h2'⟩ := Disk.sameFile_iff.mp hs'
          have hpp : p = p' := Except.ok.inj (h2.symm.trans h2')
          have hboth := Disk.sameFile_iff.mpr ⟨p, h1, hpp ▸ h1'⟩
          rw [h target target' hp hp'] at hboth
          cases hboth
        rw [if_pos hs, if_neg hs', if_pos hs, if_neg hs']
      · rw [if_neg hs, if_neg hs]

/-! ## Whole texts -/

section Whole

variable {d₁ d₂ : Disk} {cwd : Ino} {p q : Option Ino} (hs : d.Sound)

include hs

theorem store_contents (h : t.Opens d d₁ cwd p) (text : String) :
    d.Preserves (d₁.appendAt p (Utf8.encode text)) ∧ ∀ dir path,
      (d₁.appendAt p (Utf8.encode text)).content? dir path =
        t.store d cwd text dir path (d.content? dir path) := by
  have hk := opens_preserves hs h
  refine ⟨hk.trans (Disk.preserves_appendAt hk.sound p _), fun dir path => ?_⟩
  rw [appendAt_contents (opens_leads h), opens_contents h, extend_names hk.names, store_eq]

/-- Opening both targets first and then bringing each its text comes to the same as serving one
target after the other. -/
theorem store_both {out err : Target} (ho : out.Opens d d₁ cwd p) (he : err.Opens d₁ d₂ cwd q)
    (hd : out.Distinct err d cwd) (outText errText : String) :
    d.Preserves ((d₂.appendAt p (Utf8.encode outText)).appendAt q (Utf8.encode errText)) ∧
      ∀ dir path,
        ((d₂.appendAt p (Utf8.encode outText)).appendAt q (Utf8.encode errText)).content? dir
            path =
          err.store d cwd errText dir path
            (out.store d cwd outText dir path (d.content? dir path)) := by
  have hk₁ := opens_preserves hs ho
  have hk₂ := opens_preserves hk₁.sound he
  have hk := hk₁.trans hk₂
  have hk₃ := Disk.preserves_appendAt hk.sound p (Utf8.encode outText)
  have hk₄ := hk.trans hk₃
  have hout := leads_preserves (opens_leads ho) hk₂
  have herr := leads_preserves (opens_leads he) hk₃
  refine ⟨hk₄.trans (Disk.preserves_appendAt hk₄.sound q _), fun dir path => ?_⟩
  -- The second file is opened before the first text is there; as the targets differ, it may as well
  -- be opened behind it.
  rw [appendAt_contents herr, appendAt_contents hout, opens_contents he, opens_contents ho,
    extend_names hk₄.names, extend_names hk.names, begin_names hk₁.names, extend_begin hd,
    store_eq, store_eq]

end Whole

end Target

end CommandShell
