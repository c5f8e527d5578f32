import CommandShell.Proofs.Disk.Store
import CommandShell.Proofs.File.Sink

/-!
# What waits in a sink

The disk that a sink is on its way to: the one that a flush would leave. A write adds its text to the
file on that disk, and a flush makes it the real one.
-/

open CommandShell.Effect

namespace CommandShell

namespace Handle

/-- The next bytes go to the end of a regular file. -/
def Aligned (h : Handle) (d : Disk) : Prop :=
  ∃ content rights, d.file? h.node = some (content, rights) ∧ h.position d = content.length

theorem overlay_end (content bytes : Bytes) :
    Disk.overlay content content.length bytes = content ++ bytes := by
  simp [Disk.overlay]

theorem size_file {d : Disk} {i rights : Nat} {content : Bytes}
    (h : d.file? i = some (content, rights)) : d.size i = content.length := by
  rw [Disk.size, Disk.file?_eq_some.mp h]

theorem aligned_start {d : Disk} {i rights : Nat} {mode : OpenMode} {content? : Option Bytes}
    (hf : d.file? i = some (Disk.start mode content?, rights)) : Aligned { node := i, mode } d := by
  refine ⟨_, rights, hf, ?_⟩
  cases mode with
  | append => exact size_file hf
  | overwrite => rfl

theorem emit_aligned {h : Handle} {d : Disk} (ha : h.Aligned d) (bytes : Bytes) :
    ∃ h', emit bytes (h, d) = (.ok (), h', d.append h.node bytes) ∧
      h'.Aligned (d.append h.node bytes) ∧ h'.node = h.node ∧ h'.text = h.text ∧
      h'.block = h.block := by
  obtain ⟨content, rights, hf, hpos⟩ := ha
  have hw : d.writeAt h.node (h.position d) bytes = .ok (d.append h.node bytes) := by
    rw [Disk.writeAt, Disk.file?_eq_some.mp hf, hpos, Disk.append_file hf]
    simp only [overlay_end]
  refine ⟨_, emit_ok hw, ⟨content ++ bytes, rights, Disk.file?_append_self hf bytes, ?_⟩, rfl, rfl,
    rfl⟩
  rw [List.length_append, ← hpos]
  unfold position
  cases hm : h.mode with
  | append =>
    simp only
    rw [size_file (Disk.file?_append_self hf bytes), size_file hf, List.length_append]
  | overwrite => rfl

theorem keeps_aligned (d₀ : Disk) (i : Ino) :
    Keeps fun content h d => h.node = i ∧ d = d₀.append i content ∧ h.Aligned d where
  emit := by
    rintro content h d bytes ⟨rfl, rfl, ha⟩
    obtain ⟨h', he, ha', hn, ht, hb⟩ := emit_aligned ha bytes
    rw [Disk.append_append] at he ha'
    exact ⟨h', _, he, ⟨hn, rfl, ha'⟩, ht, hb⟩
  stores := fun _ _ h => h

theorem aligned_holds {h : Handle} {d : Disk} (ha : h.Aligned d) :
    h.node = h.node ∧ d = d.append h.node [] ∧ h.Aligned d :=
  ⟨rfl, (d.append_nil _).symm, ha⟩

/-- The disk when all that waits has come to the file. -/
def settled (h : Handle) (d : Disk) : Disk := d.append h.node (h.block ++ h.text)

theorem write_aligned {h : Handle} {d : Disk} (ha : h.Aligned d) (bytes : Bytes) :
    ∃ h' written, write bytes (h, d) = (.ok (), h', d.append h.node written) ∧
      h'.node = h.node ∧ h'.Aligned (d.append h.node written) ∧
      ∀ d', h'.settled (d'.append h.node written) = (h.settled d').append h.node bytes := by
  obtain ⟨written, h', d', hw, ⟨hn, rfl, ha'⟩, hall⟩ :=
    write_ok (keeps_aligned d h.node) [] bytes (aligned_holds ha)
  refine ⟨h', written, hw, hn, ha', fun d' => ?_⟩
  rw [settled, settled, hn, Disk.append_append, Disk.append_append, ← List.append_assoc, hall]
  rfl

theorem flush_aligned {h : Handle} {d : Disk} (ha : h.Aligned d) :
    ∃ h', flush (h, d) = (.ok (), h', h.settled d) ∧ h'.node = h.node ∧
      h'.Aligned (h.settled d) ∧ ∀ d', h'.settled d' = d' := by
  obtain ⟨h', d', hf, ⟨hn, rfl, ha'⟩, hb, ht⟩ :=
    flush_ok (keeps_aligned d h.node) [] (aligned_holds ha)
  refine ⟨h', hf, hn, ha', fun d' => ?_⟩
  rw [settled, hb, ht]
  exact Disk.append_nil _ _

theorem aligned_append {h : Handle} {d : Disk} (ha : h.Aligned d) {i : Ino} (hi : h.node ≠ i)
    (bytes : Bytes) : h.Aligned (d.append i bytes) := by
  obtain ⟨content, rights, hf, hpos⟩ := ha
  have hf' := (Disk.file?_append_ne d hi bytes).trans hf
  refine ⟨content, rights, hf', ?_⟩
  rw [← hpos]
  unfold position
  rw [size_file hf, size_file hf']

end Handle

/-! ## Sinks -/

def Machine.receive (m : Machine) (stream : Stream) (port? : Option Ino) (text : String) :
    Machine :=
  match port? with
  | none => if text.isEmpty then m else m.print stream text
  | some _ => m

def Console.look (c : Console) (stream : Stream) (text : String) : String :=
  match stream with
  | .out => text
  | .err => if text.isEmpty then text else if c.isColoured then Console.inRed text else text

theorem look_empty (c : Console) (stream : Stream) : c.look stream "" = "" := by
  cases stream <;> rfl

theorem write_empty (c : Console) : c.write "" = c := by
  simp [Console.write]

theorem receive_console (m : Machine) (stream : Stream) (port? : Option Ino) (text : String)
    (other : Stream) :
    (m.receive stream port? text).console other =
      if other = stream ∧ port? = none then
        (m.console other).write ((m.console other).look stream text)
      else m.console other := by
  cases port? with
  | some i => simp [Machine.receive]
  | none =>
    by_cases ht : text = ""
    · simp [Machine.receive, ht, look_empty, write_empty]
    · have ht' : text.isEmpty = false := by simpa using ht
      simp only [Machine.receive, Console.look, ht', Bool.false_eq_true, if_false]
      cases stream <;> cases other <;> rfl

theorem receive_disk (m : Machine) (stream : Stream) (port? : Option Ino) (text : String) :
    (m.receive stream port? text).disk = m.disk := by
  cases port? with
  | none =>
    rw [Machine.receive]
    split
    · rfl
    · cases stream <;> rfl
  | some i => rfl

theorem receive_cwd (m : Machine) (stream : Stream) (port? : Option Ino) (text : String) :
    (m.receive stream port? text).cwd = m.cwd := by
  cases port? with
  | none =>
    rw [Machine.receive]
    split
    · rfl
    · cases stream <;> rfl
  | some i => rfl

namespace Sink

def port? (s : Sink) : Option Ino :=
  match s.outlet with
  | .file h => some h.node
  | _ => none

/-- The disk when all that waits in the sink has come to its file. -/
def settled (s : Sink) (d : Disk) : Disk :=
  match s.outlet with
  | .file h => h.settled d
  | _ => d

/-- The sink is open, on a console or at the end of a regular file. -/
structure Ready (s : Sink) (d : Disk) : Prop where
  opened : s.closed = false
  outlet : s.outlet = .console ∨ ∃ h, s.outlet = .file h ∧ h.Aligned d

variable {s : Sink} {m : Machine}

theorem ready_write (hr : s.Ready m.disk) (text : String) :
    ∃ n s' m' written, write text s m = (.ok n, s', m') ∧
      Machine.Agrees { m.receive s.stream s.port? text with
        disk := m.disk.appendAt s.port? written } m' ∧
      s'.Ready m'.disk ∧ s'.port? = s.port? ∧ s'.stream = s.stream ∧
      ∀ d, s'.settled (d.appendAt s.port? written) =
        (s.settled d).appendAt s.port? (Utf8.encode text) := by
  obtain ⟨hopen, ho | ⟨h, ho, ha⟩⟩ := hr
  · have hp : s.port? = none := by rw [port?, ho]
    have hd : (if text.isEmpty then m else m.print s.stream text).disk = m.disk :=
      receive_disk m s.stream none text
    rw [hp]
    exact ⟨_, s, _, [], write_console hopen ho text m, ⟨hd, fun _ => rfl⟩, ⟨hopen, Or.inl ho⟩, hp,
      rfl, fun d => rfl⟩
  · have hp : s.port? = some h.node := by rw [port?, ho]
    rw [hp]
    by_cases ht : text = ""
    · subst ht
      refine ⟨0, s, m, [], rfl, ⟨(m.disk.append_nil _).symm, fun _ => rfl⟩,
        ⟨hopen, Or.inr ⟨h, ho, ha⟩⟩, hp, rfl, fun d => ?_⟩
      rw [Disk.appendAt_nil]
      exact (Disk.appendAt_nil _ _).symm
    · obtain ⟨h', written, hw, hn, ha', hset⟩ := Handle.write_aligned ha (Utf8.encode text)
      refine ⟨_, _, _, written, write_ok hopen ho ht hw, ⟨rfl, fun _ => rfl⟩,
        ⟨hopen, Or.inr ⟨h', rfl, ha'⟩⟩, congrArg some hn, rfl, fun d => ?_⟩
      rw [settled, settled, ho]
      exact hset d

theorem ready_flush (hr : s.Ready m.disk) :
    ∃ s', flush s m = (.ok (), s', { m with disk := s.settled m.disk }) ∧
      s'.Ready (s.settled m.disk) ∧ s'.port? = s.port? ∧ s'.stream = s.stream ∧
      ∀ d, s'.settled d = d := by
  obtain ⟨hopen, ho | ⟨h, ho, ha⟩⟩ := hr
  · have hset (d : Disk) : s.settled d = d := by rw [settled, ho]
    refine ⟨s, ?_, by rw [hset]; exact ⟨hopen, Or.inl ho⟩, rfl, rfl, hset⟩
    rw [flush_other (by simp [ho]), hset]
  · obtain ⟨h', hf, hn, ha', hset⟩ := Handle.flush_aligned ha
    have hs : s.settled m.disk = h.settled m.disk := by rw [settled, ho]
    rw [hs]
    refine ⟨_, flush_ok hopen ho hf, ⟨hopen, Or.inr ⟨h', rfl, ha'⟩⟩, ?_, rfl, hset⟩
    have hp : s.port? = some h.node := by rw [port?, ho]
    rw [hp]
    exact congrArg some hn

theorem ready_close (hr : s.Ready m.disk) :
    ∃ s', close s m = (.ok (), s', { m with disk := s.settled m.disk }) ∧
      ∀ m', s'.abandon m' = m' := by
  obtain ⟨s', hf, hr', -⟩ := ready_flush hr
  have hopen := hr.opened
  rw [close, hopen, hf]
  rcases hr'.outlet with ho | ⟨h, ho, -⟩
  · refine ⟨s', by simp [ho], fun m' => ?_⟩
    rw [abandon, hr'.opened, flush_other (by simp [ho])]
    rfl
  · exact ⟨{ s' with closed := true }, by simp [ho], fun m' => rfl⟩

/-! ## Two sinks on one disk -/

theorem ready_appendAt {d : Disk} (hr : s.Ready d) {port?' : Option Ino}
    (ha : Disk.Apart s.port? port?') (bytes : Bytes) : s.Ready (d.appendAt port?' bytes) := by
  cases port?' with
  | none => exact hr
  | some i =>
    refine ⟨hr.opened, hr.outlet.imp id ?_⟩
    rintro ⟨h, ho, hal⟩
    have hi : h.node ≠ i := by
      rintro rfl
      exact ha h.node (by rw [port?, ho]) rfl
    exact ⟨h, ho, Handle.aligned_append hal hi bytes⟩

theorem settled_eq (s : Sink) : ∃ bytes, ∀ d, s.settled d = d.appendAt s.port? bytes := by
  cases ho : s.outlet with
  | file h =>
    have hp : s.port? = some h.node := by rw [port?, ho]
    refine ⟨h.block ++ h.text, fun d => ?_⟩
    rw [settled, ho, hp]
    rfl
  | _ =>
    refine ⟨[], fun d => ?_⟩
    rw [Disk.appendAt_nil, settled, ho]

theorem settled_appendAt (d : Disk) {port?' : Option Ino} (ha : Disk.Apart s.port? port?')
    (bytes : Bytes) :
    s.settled (d.appendAt port?' bytes) = (s.settled d).appendAt port?' bytes := by
  obtain ⟨waiting, hset⟩ := settled_eq s
  rw [hset, hset]
  exact (Disk.appendAt_comm d ha waiting bytes).symm

end Sink

end CommandShell
