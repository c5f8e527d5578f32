import CommandShell.Proofs.Disk.Opening
import CommandShell.Proofs.File.Footing
import CommandShell.Proofs.File.Settled

/-!
# Sinks as they are opened

A sink starts with nothing waiting in it. A text that is written to it and flushed arrives whole,
unless it is on a device that fails, and until something is written a flush does nothing.
-/

namespace CommandShell

/-! ## Handles -/

namespace Handle

/-- What is emitted comes to the end of a file, or to the device that keeps nothing. -/
def Flows (h : Handle) (d : Disk) : Prop := h.Aligned d ∨ d.node? h.node = some (.device .null)

theorem file?_device {d : Disk} {i : Ino} {device : Device}
    (h : d.node? i = some (.device device)) : d.file? i = none := by
  rw [Disk.file?, h]

theorem emit_flows {h : Handle} {d : Disk} (hf : h.Flows d) (bytes : Bytes) :
    ∃ h', emit bytes (h, d) = (.ok (), h', d.append h.node bytes) ∧
      h'.Flows (d.append h.node bytes) ∧ h'.node = h.node ∧ h'.text = h.text ∧
      h'.block = h.block := by
  rcases hf with ha | hnull
  · obtain ⟨h', he, ha', hrest⟩ := emit_aligned ha bytes
    exact ⟨h', he, Or.inl ha', hrest⟩
  · have hw : d.writeAt h.node (h.position d) bytes = .ok d := by rw [Disk.writeAt, hnull]
    rw [Disk.append_none (file?_device hnull)]
    exact ⟨_, emit_ok hw, Or.inr hnull, rfl, rfl, rfl⟩

theorem keeps_flows (d₀ : Disk) (i : Ino) :
    Keeps fun content h d => h.node = i ∧ d = d₀.append i content ∧ h.Flows d where
  emit := by
    rintro content h d bytes ⟨rfl, rfl, hf⟩
    obtain ⟨h', he, hf', hn, ht, hb⟩ := emit_flows hf bytes
    rw [Disk.append_append] at he hf'
    exact ⟨h', _, he, ⟨hn, rfl, hf'⟩, ht, hb⟩
  stores := fun _ _ h => h

theorem flows_delivered {h : Handle} {d : Disk} (hf : h.Flows d) (hi : h.IsIdle) (bytes : Bytes) :
    ∃ h₁ d₁ h₂, write bytes (h, d) = (.ok (), h₁, d₁) ∧
      flush (h₁, d₁) = (.ok (), h₂, d.append h.node bytes) ∧ h₂.IsIdle := by
  have hstart : h.node = h.node ∧ d = d.append h.node [] ∧ h.Flows d :=
    ⟨rfl, (d.append_nil _).symm, hf⟩
  obtain ⟨content, h₁, d₁, hw, hh₁, hall⟩ := write_ok (keeps_flows d h.node) [] bytes hstart
  obtain ⟨h₂, d₂, hflush, ⟨-, rfl, -⟩, hb, ht⟩ := flush_ok (keeps_flows d h.node) content hh₁
  rw [hi.1, hi.2] at hall
  rw [hall] at hflush
  exact ⟨h₁, d₁, h₂, hw, hflush, ht, hb⟩

/-- Nothing was written through the handle yet. -/
structure Fresh (h : Handle) (d : Disk) : Prop where
  idle : h.IsIdle
  stands : (∃ device, d.kind? h.node = some (.device device) ∧ (Kind.device device).IsOpen) ∨
    ∃ content rights, d.file? h.node = some (content, rights) ∧
      (h.mode = .append ∨ h.offset = 0 ∧ content = [])

theorem fresh_flows {h : Handle} {d : Disk} (hf : h.Fresh d) (hs : d.writeError? h.node = none) :
    h.Flows d := by
  rcases hf.stands with ⟨device, hk, ho⟩ | ⟨content, rights, hfile, hstart⟩
  · cases ho with
    | null =>
      right
      obtain ⟨n, hn, hk⟩ := Option.map_eq_some_iff.mp hk
      cases n <;> simp [Node.kind] at hk
      rw [hn, hk]
    | failing e => cases hs.symm.trans (Disk.writeError?_eq_some.mpr hk)
  · refine Or.inl ⟨content, rights, hfile, ?_⟩
    unfold position
    rcases hstart with hm | ⟨ho, hc⟩
    · rw [hm]
      exact size_file hfile
    · subst hc
      cases h.mode with
      | append => exact size_file hfile
      | overwrite => exact ho

theorem openAt_fresh {d d' : Disk} {cwd : Ino} {path : String} {mode : OpenMode} {h : Handle}
    (ho : openAt d cwd path mode = .ok (h, d')) : h.Fresh d' := by
  obtain ⟨i, hopen, rfl⟩ := openAt_ok ho
  refine ⟨⟨rfl, rfl⟩, ?_⟩
  rcases (Disk.open_ways hopen).stands with ⟨device, hn, hk, rfl⟩ | ⟨content, rights, hf, hempty⟩
  · exact Or.inl ⟨device, by rw [Disk.kind?, hn]; rfl, hk⟩
  · refine Or.inr ⟨content, rights, hf, ?_⟩
    cases mode with
    | append => exact Or.inl rfl
    | overwrite => exact Or.inr ⟨rfl, hempty rfl⟩

theorem fresh_open {h : Handle} {d d' : Disk} {cwd i : Ino} {path : String} {mode : OpenMode}
    (hf : h.Fresh d) (ho : d.openForWriting cwd path mode = .ok (i, d')) : h.Fresh d' := by
  refine ⟨hf.idle, ?_⟩
  rcases hf.stands with ⟨device, hk, hopened⟩ | ⟨content, rights, hfile, hstart⟩
  · exact Or.inl ⟨device, (Disk.open_kind ho).1 _ _ hk, hopened⟩
  · refine Or.inr ⟨_, rights, (Disk.open_ways ho).file?_kept hfile, hstart.imp id ?_⟩
    rintro ⟨hoffset, rfl⟩
    refine ⟨hoffset, ?_⟩
    split
    · cases mode <;> rfl
    · rfl

end Handle

/-! ## Sinks -/

namespace Sink

structure Resting (s : Sink) : Prop where
  opened : s.closed = false
  idle : ∀ h, s.outlet = .file h → h.IsIdle

/-- The sink is a console or a file, and nothing was written to it yet. -/
structure Fresh (s : Sink) (d : Disk) : Prop where
  opened : s.closed = false
  outlet : s.outlet = .console ∨ ∃ h, s.outlet = .file h ∧ h.Fresh d

/-- What a text does to a machine when it has come to its place. -/
def deliver (s : Sink) (text : String) (m : Machine) : Machine :=
  match s.outlet with
  | .console => m.print s.stream text
  | .file h => { m with disk := m.disk.append h.node (Utf8.encode text) }
  | .memory _ => m

variable {s : Sink} {m : Machine}

theorem fresh_resting {d : Disk} (hf : s.Fresh d) : s.Resting := by
  refine ⟨hf.opened, fun h ho => ?_⟩
  rcases hf.outlet with hc | ⟨h', ho', hh⟩
  · rw [hc] at ho
    cases ho
  · cases ho'.symm.trans ho
    exact hh.idle

theorem resting_flush (hr : s.Resting) (m : Machine) : flush s m = (.ok (), s, m) := by
  cases ho : s.outlet with
  | file h => rw [flush_ok hr.opened ho (Handle.flush_idle (hr.idle h ho) m.disk), ← ho]
  | _ => exact flush_other (by simp [ho]) m

theorem resting_abandon (hr : s.Resting) (m : Machine) : s.abandon m = m := by
  rw [abandon, hr.opened, resting_flush hr]
  rfl

theorem resting_close (hr : s.Resting) (m : Machine) :
    ∃ s', close s m = (.ok (), s', m) ∧ ∀ m', s'.abandon m' = m' := by
  rw [close, hr.opened, resting_flush hr]
  cases ho : s.outlet with
  | file h => exact ⟨{ s with closed := true }, by simp [ho], fun m' => rfl⟩
  | _ => exact ⟨s, by simp [ho], resting_abandon hr⟩

theorem fresh_delivers (hf : s.Fresh m.disk) (hw : s.writeError? m.disk = none) {text : String}
    (ht : text ≠ "") :
    ∃ n s₁ m₁ s₂, write text s m = (.ok n, s₁, m₁) ∧
      flush s₁ m₁ = (.ok (), s₂, s.deliver text m) ∧ s₂.Resting := by
  rcases hf.outlet with ho | ⟨h, ho, hh⟩
  · have hprint : (if text.isEmpty then m else m.print s.stream text) = s.deliver text m := by
      have htext : text.isEmpty = false := by simpa using ht
      rw [htext, deliver, ho]
      rfl
    refine ⟨_, s, _, s, write_console hf.opened ho text m, ?_, fresh_resting hf⟩
    rw [flush_other (by simp [ho]), hprint]
  · have hnode : m.disk.writeError? h.node = none := by
      simpa [writeError?, ho, hf.opened] using hw
    have hflows := Handle.fresh_flows hh hnode
    obtain ⟨h₁, d₁, h₂, hw, hflush, hi⟩ :=
      Handle.flows_delivered hflows hh.idle (Utf8.encode text)
    refine ⟨_, _, _, { s with outlet := .file h₂ }, write_ok hf.opened ho ht hw, ?_,
      ⟨hf.opened, ?_⟩⟩
    · have hdeliver : s.deliver text m =
          { m with disk := m.disk.append h.node (Utf8.encode text) } := by rw [deliver, ho]
      rw [hdeliver]
      exact flush_ok (m := { m with disk := d₁ }) hf.opened rfl hflush
    · rintro _ ⟨⟩
      exact hi

/-! ## Opening -/

variable {stream : Stream} {t : Target} {m' : Machine}

theorem ofTarget_disk (h : ofTarget stream t m = .ok (s, m')) :
    m' = { m with disk := m'.disk } := by
  unfold ofTarget toFile at h
  split at h
  · cases h
    rfl
  · split at h
    · cases h
    · split at h
      · cases h
        rfl
      · cases h

theorem ofTarget_fresh (h : ofTarget stream t m = .ok (s, m')) : s.Fresh m'.disk := by
  unfold ofTarget toFile at h
  split at h
  · cases h
    exact ⟨rfl, Or.inl rfl⟩
  · split at h
    · cases h
    · split at h
      · next handle disk ho =>
        cases h
        exact ⟨rfl, Or.inr ⟨handle, rfl, Handle.openAt_fresh ho⟩⟩
      · cases h

theorem fresh_ofTarget {s' : Sink} (hf : s'.Fresh m.disk)
    (h : ofTarget stream t m = .ok (s, m')) : s'.Fresh m'.disk := by
  unfold ofTarget toFile at h
  split at h
  · cases h
    exact hf
  · split at h
    · cases h
    · split at h
      · next handle disk ho =>
        cases h
        obtain ⟨i, hopen, -⟩ := Handle.openAt_ok ho
        refine ⟨hf.opened, hf.outlet.imp id ?_⟩
        rintro ⟨h, hout, hh⟩
        exact ⟨h, hout, Handle.fresh_open hh hopen⟩
      · cases h

end Sink

end CommandShell
