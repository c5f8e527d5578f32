import CommandShell.Handle
import CommandShell.Proofs.Disk.Kind
import CommandShell.Proofs.Effect

/-!
# Writing through a handle

What the steps of a handle come to, once for the files that take every byte and once for the devices
that take none. On the first nothing fails, and the bytes in the file with those that wait grow by
what is written. On the second a short text waits until a flush fails.
-/

open CommandShell.Effect

namespace CommandShell.Handle

/-! ## The steps, written out -/

def position (h : Handle) (d : Disk) : Nat :=
  match h.mode with
  | .append => d.size h.node
  | .overwrite => h.offset

theorem emit_eq (bytes : Bytes) (h : Handle) (d : Disk) :
    emit bytes (h, d) =
      match d.writeAt h.node (h.position d) bytes with
      | .ok d' => (.ok (), { h with offset := h.position d + bytes.length }, d')
      | .error e => (.error e, h, d) := rfl

theorem emit_ok {h : Handle} {d d' : Disk} {bytes : Bytes}
    (hw : d.writeAt h.node (h.position d) bytes = .ok d') :
    emit bytes (h, d) = (.ok (), { h with offset := h.position d + bytes.length }, d') := by
  rw [emit_eq, hw]

/-- The second half of a write. -/
def stash (bytes : Bytes) : Step := do
  modify fun (h, d) => ({ h with text := h.text ++ bytes }, d)
  if (← get).1.text.length ≥ chunkSize then handOn

theorem stash_eq (bytes : Bytes) (h : Handle) (d : Disk) :
    stash bytes (h, d) =
      if h.text.length + bytes.length ≥ chunkSize then
        handOn ({ h with text := h.text ++ bytes }, d)
      else (.ok (), { h with text := h.text ++ bytes }, d) := by
  rw [stash, bind_apply, modify_apply]
  simp only [bind_apply, get_apply, List.length_append]
  split <;> rfl

theorem write_eq (bytes : Bytes) (h : Handle) (d : Disk) :
    write bytes (h, d) =
      if h.text.length + bytes.length > chunkSize then (handOn >>= fun _ => stash bytes) (h, d)
      else stash bytes (h, d) := by
  rw [write, bind_apply, get_apply]
  simp only
  split <;> rfl

theorem flush_apply (h : Handle) (d : Disk) :
    flush (h, d) = (handOn >>= fun _ => flushBlock) (h, d) := rfl

/-! ## Opening -/

theorem openAt_ok {d d' : Disk} {cwd : Ino} {path : String} {mode : OpenMode} {h : Handle}
    (ho : openAt d cwd path mode = .ok (h, d')) :
    ∃ i, d.openForWriting cwd path mode = .ok (i, d') ∧ h = { node := i, mode } := by
  unfold openAt at ho
  cases hopen : d.openForWriting cwd path mode with
  | error e =>
    rw [hopen] at ho
    cases ho
  | ok r =>
    rw [hopen] at ho
    cases ho
    exact ⟨r.1, rfl, rfl⟩

/-! ## Files that take every byte -/

/-- A way to say what a file holds, under which everything that is emitted is taken. -/
structure Keeps (holds : Bytes → Handle → Disk → Prop) : Prop where
  emit : ∀ {content h d} bytes, holds content h d → ∃ h' d',
    Handle.emit bytes (h, d) = (.ok (), h', d') ∧ holds (content ++ bytes) h' d' ∧
      h'.text = h.text ∧ h'.block = h.block
  stores : ∀ {content h d} text block, holds content h d →
    holds content { h with text, block } d

section Keeps

variable {holds : Bytes → Handle → Disk → Prop} (k : Keeps holds)
  (content : Bytes) {h : Handle} {d : Disk}

include k

theorem flushBlock_ok (hh : holds content h d) :
    ∃ h' d', flushBlock (h, d) = (.ok (), h', d') ∧ holds (content ++ h.block) h' d' ∧
      h'.text = h.text ∧ h'.block = [] := by
  rw [flushBlock]
  by_cases hb : h.block = []
  · refine ⟨h, d, ?_, by simpa [hb] using hh, rfl, hb⟩
    simp [hb]
  · obtain ⟨h', d', he, hh', ht, -⟩ := k.emit h.block hh
    have hb' : h.block.isEmpty = false := by simpa using hb
    refine ⟨{ h' with block := [] }, d', ?_, k.stores h'.text [] hh', ht, rfl⟩
    simp [hb', he]

theorem fill_ok (bytes : Bytes) (hh : holds content h d) :
    ∃ content' h' d', fill bytes (h, d) = (.ok (), h', d') ∧ holds content' h' d' ∧
      content' ++ h'.block = content ++ h.block ++ bytes ∧ h'.text = h.text := by
  rw [fill]
  by_cases hfit : h.block.length + bytes.length ≤ blockSize ∧ bytes.length < blockSize
  · refine ⟨content, { h with block := h.block ++ bytes }, d, ?_, k.stores h.text _ hh, ?_, rfl⟩
    · simp [hfit]
    · rw [List.append_assoc]
  · obtain ⟨h1, d1, hflush, hh1, ht, hb⟩ := flushBlock_ok k content hh
    by_cases hlong : bytes.length > blockSize
    · obtain ⟨h2, d2, he, hh2, ht2, hb2⟩ := k.emit bytes hh1
      refine ⟨_, h2, d2, ?_, hh2, ?_, ht2.trans ht⟩
      · simp [hfit, hflush, hlong, he]
      · rw [hb2, hb, List.append_nil]
    · refine ⟨_, { h1 with block := bytes }, d1, ?_, k.stores h1.text _ hh1, rfl, ht⟩
      simp [hfit, hflush, hlong]

theorem handOn_ok (hh : holds content h d) :
    ∃ content' h' d', handOn (h, d) = (.ok (), h', d') ∧ holds content' h' d' ∧
      content' ++ h'.block = content ++ h.block ++ h.text ∧ h'.text = [] := by
  rw [handOn]
  by_cases ht : h.text = []
  · refine ⟨content, h, d, ?_, hh, by simp [ht], ht⟩
    simp [ht]
  · have ht' : h.text.isEmpty = false := by simpa using ht
    obtain ⟨content', h', d', hfill, hh', hb, htext⟩ :=
      fill_ok k content h.text (k.stores (d := d) [] h.block hh)
    exact ⟨content', h', d', by simp [ht', hfill], hh', hb, htext⟩

theorem stash_ok (bytes : Bytes) (hh : holds content h d) :
    ∃ content' h' d', stash bytes (h, d) = (.ok (), h', d') ∧ holds content' h' d' ∧
      content' ++ h'.block ++ h'.text = content ++ h.block ++ h.text ++ bytes := by
  have hh1 := k.stores (h.text ++ bytes) h.block hh
  rw [stash_eq]
  split
  · obtain ⟨content', h', d', hon, hh', hb, ht⟩ := handOn_ok k content hh1
    refine ⟨content', h', d', hon, hh', ?_⟩
    rw [ht, List.append_nil, hb, List.append_assoc (content ++ h.block)]
  · refine ⟨content, _, d, rfl, hh1, ?_⟩
    rw [List.append_assoc (content ++ h.block)]

theorem write_ok (bytes : Bytes) (hh : holds content h d) :
    ∃ content' h' d', write bytes (h, d) = (.ok (), h', d') ∧ holds content' h' d' ∧
      content' ++ h'.block ++ h'.text = content ++ h.block ++ h.text ++ bytes := by
  rw [write_eq]
  split
  -- What waited has moved on, so that the text waits alone.
  · obtain ⟨content1, h1, d1, hon, hh1, hb, ht⟩ := handOn_ok k content hh
    obtain ⟨content', h', d', hs, hh', hall⟩ := stash_ok k _ bytes hh1
    rw [ht, List.append_nil, hb] at hall
    exact ⟨content', h', d', by rw [bind_ok hon, hs], hh', hall⟩
  · exact stash_ok k content bytes hh

theorem flush_ok (hh : holds content h d) :
    ∃ h' d', flush (h, d) = (.ok (), h', d') ∧ holds (content ++ h.block ++ h.text) h' d' ∧
      h'.block = [] ∧ h'.text = [] := by
  obtain ⟨content1, h1, d1, hon, hh1, hb, ht⟩ := handOn_ok k content hh
  obtain ⟨h', d', hf, hh', ht', hb'⟩ := flushBlock_ok k _ hh1
  refine ⟨h', d', ?_, hb ▸ hh', hb', ht'.trans ht⟩
  rw [flush_apply, bind_ok hon, hf]

end Keeps

/-! ## Devices that take no byte -/

def IsIdle (h : Handle) : Prop := h.text = [] ∧ h.block = []

theorem flush_idle {h : Handle} (hi : h.IsIdle) (d : Disk) : flush (h, d) = (.ok (), h, d) := by
  have hon : handOn (h, d) = (.ok (), h, d) := by simp [handOn, hi.1]
  rw [flush_apply, bind_ok hon]
  simp [flushBlock, hi.2]

section Stuck

variable {h : Handle} {d : Disk} {e : Errno} (hs : d.writeError? h.node = some e)

include hs

theorem emit_stuck {bytes : Bytes} (hb : bytes ≠ []) :
    emit bytes (h, d) = (.error e, h, d) := by
  have hn := Disk.node?_failing hs
  simp [emit, Disk.writeAt, hn, hb]

theorem flushBlock_stuck (hb : h.block ≠ []) : flushBlock (h, d) = (.error e, h, d) := by
  simp [flushBlock, hb, emit_stuck hs hb]

theorem fill_stuck {bytes : Bytes} (hb : bytes ≠ []) :
    (∃ block, block ≠ [] ∧ fill bytes (h, d) = (.ok (), { h with block }, d)) ∨
      fill bytes (h, d) = (.error e, h, d) := by
  rw [fill]
  by_cases hfit : h.block.length + bytes.length ≤ blockSize ∧ bytes.length < blockSize
  · left
    exact ⟨h.block ++ bytes, by simp [hb], by simp [hfit]⟩
  · by_cases hblock : h.block = []
    · have hflush : flushBlock (h, d) = (.ok (), h, d) := by simp [flushBlock, hblock]
      by_cases hlong : bytes.length > blockSize
      · right
        simp [hfit, hflush, hlong, emit_stuck hs hb]
      · left
        exact ⟨bytes, hb, by simp [hfit, hflush, hlong]⟩
    · right
      simp [hfit, flushBlock_stuck hs hblock]

theorem flush_stuck (hi : ¬ h.IsIdle) :
    ∃ h', flush (h, d) = (.error e, h', d) ∧ h'.node = h.node := by
  rw [flush_apply]
  by_cases ht : h.text = []
  · have hon : handOn (h, d) = (.ok (), h, d) := by simp [handOn, ht]
    have hb : h.block ≠ [] := fun hb => hi ⟨ht, hb⟩
    exact ⟨h, by rw [bind_ok hon, flushBlock_stuck hs hb], rfl⟩
  · have hon : handOn (h, d) = fill h.text ({ h with text := [] }, d) := by simp [handOn, ht]
    -- The text comes as far as the block, which is refused next, or is refused itself.
    rcases fill_stuck (h := { h with text := [] }) hs ht with ⟨block, hb, hfill⟩ | hfill
    · refine ⟨{ h with text := [], block }, ?_, rfl⟩
      rw [bind_ok (hon.trans hfill), flushBlock_stuck (h := { h with text := [], block }) hs hb]
    · exact ⟨{ h with text := [] }, bind_error (hon.trans hfill), rfl⟩

theorem write_stuck (hi : h.IsIdle) {bytes : Bytes} (hb : bytes ≠ []) :
    write bytes (h, d) =
      if bytes.length < chunkSize then (.ok (), { h with text := bytes }, d)
      else (.error e, h, d) := by
  obtain ⟨node, mode, offset, text, block⟩ := h
  obtain ⟨rfl, rfl⟩ : text = [] ∧ block = [] := hi
  have hon : handOn (⟨node, mode, offset, [], []⟩, d) = (.ok (), ⟨node, mode, offset, [], []⟩, d) :=
    rfl
  rw [write_eq, bind_ok hon, ite_self, stash_eq, List.nil_append, List.length_nil, Nat.zero_add]
  by_cases hlen : bytes.length < chunkSize
  · rw [if_neg (by omega), if_pos hlen]
  · rw [if_pos (by omega), if_neg hlen]
    have hlong : bytes.length > blockSize := by
      unfold chunkSize at hlen
      unfold blockSize
      omega
    have hfit : ¬ bytes.length < blockSize := by omega
    simp [handOn, hb, fill, hfit, flushBlock, hlong, emit_stuck hs hb]

end Stuck

end CommandShell.Handle
