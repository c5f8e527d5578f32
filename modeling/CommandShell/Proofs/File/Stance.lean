import CommandShell.Proofs.File.Footing
import CommandShell.Proofs.File.Work

/-!
# What a step leaves of a sink

No step moves a handle to another file or opens a sink again, whether it fails or not. So a flush
can only ever fail on a sink that was opened on a device that fails.
-/

namespace CommandShell

/-! ## Handles -/

theorem Handle.works_stays {a b : Handle × Disk} (h : Works a b) :
    b.1.node = a.1.node ∧ a.2.Grows b.2 := by
  induction h with
  | rests => exact ⟨rfl, a.2.grows_refl⟩
  | stores _ _ _ ih => exact ih
  | @emits b bytes _ ih =>
    obtain ⟨h, d⟩ := b
    rw [emit_eq]
    cases hw : d.writeAt h.node (h.position d) bytes with
    | ok d' => exact ⟨ih.1, ih.2.trans (Disk.writeAt_grows hw)⟩
    | error e => exact ih

/-! ## Sinks -/

namespace Sink

/-- The second sink stands on the file of the first, and is open only if that is. -/
structure Becomes (s s' : Sink) : Prop where
  opened : s'.closed = false → s.closed = false
  outlet : ∀ h', s'.outlet = .file h' → ∃ h, s.outlet = .file h ∧ h.node = h'.node

theorem becomes_refl (s : Sink) : s.Becomes s := ⟨id, fun h ho => ⟨h, ho, rfl⟩⟩

theorem Becomes.trans {s s' s'' : Sink} (hb : s.Becomes s') (hb' : s'.Becomes s'') :
    s.Becomes s'' where
  opened := hb.opened ∘ hb'.opened
  outlet := by
    intro h'' ho''
    obtain ⟨h', ho', hn'⟩ := hb'.outlet h'' ho''
    obtain ⟨h, ho, hn⟩ := hb.outlet h' ho'
    exact ⟨h, ho, hn.trans hn'⟩

def Stays {α : Type} (step : Step α) : Prop :=
  ∀ (s : Sink) (m : Machine), s.Becomes (step s m).2.1 ∧ m.disk.Grows (step s m).2.2.disk

theorem does_stays {s s' : Sink} {m m' : Machine} {texts : List String}
    (h : s.Does m texts s' m') : s.Becomes s' ∧ m.disk.Grows m'.disk := by
  cases h with
  | rests => exact ⟨becomes_refl s, m.disk.grows_refl⟩
  | prints =>
    refine ⟨becomes_refl s, ?_⟩
    cases s.stream <;> exact m.disk.grows_refl
  | remembers after _ => exact ⟨⟨id, by rintro _ ⟨⟩⟩, m.disk.grows_refl⟩
  | @works h _ _ closed ho hopen hworks =>
    obtain ⟨hn, hg⟩ := Handle.works_stays hworks
    refine ⟨⟨fun _ => hopen, ?_⟩, hg⟩
    rintro _ ⟨⟩
    exact ⟨h, ho, hn.symm⟩

theorem stays_write (text : String) : Stays (write text) :=
  fun s m => does_stays (does_write s m text)

theorem stays_flush : Stays flush := fun s m => does_stays (does_flush s m)

theorem stays_close : Stays close := fun s m => does_stays (does_close s m)

section Flush

variable {s s' sink : Sink} {m m' m'' : Machine} {f : Fault}

theorem flush_failed (hf : flush s m = (.error f, s', m')) :
    s.closed = false ∧ ∃ h, s.outlet = .file h := by
  unfold flush at hf
  split at hf
  · next h ho =>
    split at hf
    · cases hf
    · next hopen => exact ⟨by simpa using hopen, h, ho⟩
  · cases hf

theorem becomes_flush_failed (hc : s.Calm m.disk) (hb : s.Becomes s')
    (hg : m.disk.Grows m'.disk) (hf : flush s' m' = (.error f, sink, m'')) :
    ∃ e, f = .system e none ∧ s.writeError? m.disk = some e := by
  obtain ⟨hopen, h', ho'⟩ := flush_failed hf
  obtain ⟨h, ho, hn⟩ := hb.outlet h' ho'
  rcases hc with hfirm | ⟨e, h₀, hstuck, -⟩
  · have hfirm' : s'.Firm m'.disk := by
      refine ⟨hopen, fun h'' ho'' => ?_⟩
      cases ho'.symm.trans ho''
      exact hn ▸ takes_grows (hfirm.takes h ho) hg
    obtain ⟨_, _, hok, -⟩ := firm_flush hfirm'
    rw [hok] at hf
    cases hf
  · cases hstuck.outlet.symm.trans ho
    have hs' : m'.disk.writeError? h'.node = some e :=
      hn ▸ Disk.writeError?_grows hstuck.fails hg
    by_cases hi : h'.IsIdle
    · rw [flush_ok hopen ho' (Handle.flush_idle hi m'.disk)] at hf
      cases hf
    · obtain ⟨_, hfail, -⟩ := Handle.flush_stuck hs' hi
      rw [flush_error hopen ho' hfail] at hf
      cases hf
      exact ⟨e, rfl, writeError?_eq_some.mpr ⟨h, hstuck⟩⟩

end Flush

end Sink

end CommandShell
