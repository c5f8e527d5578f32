import CommandShell.Proofs.Disk.Kind
import CommandShell.Proofs.File.Sink

/-!
# Where a sink stands

A sink is firm when what it writes to takes everything, and stuck when it writes to a device on
which every write fails, with whatever error. A sink that is opened is one of the two, with nothing
waiting in it, and stays it.
-/

namespace CommandShell

/-! ## Files that take every byte -/

def Disk.Takes (d : Disk) (i : Ino) : Prop :=
  d.kind? i = some .regular ∨ d.kind? i = some (.device .null)

theorem takes_grows {d d' : Disk} {i : Ino} (h : d.Takes i) (hg : d.Grows d') : d'.Takes i :=
  h.imp (hg i _) (hg i _)

theorem writeAt_takes {d : Disk} {i : Ino} (h : d.Takes i) (offset : Nat) (bytes : Bytes) :
    ∃ d', d.writeAt i offset bytes = .ok d' ∧ d.Grows d' := by
  have hok : ∃ d', d.writeAt i offset bytes = .ok d' := by
    unfold Disk.writeAt
    rcases h with h | h
    all_goals
      obtain ⟨n, hn, hk⟩ := Option.map_eq_some_iff.mp h
      cases n <;> simp [Node.kind] at hk
    · exact ⟨_, by rw [hn]⟩
    · subst hk
      exact ⟨_, by rw [hn]⟩
  obtain ⟨d', hd'⟩ := hok
  exact ⟨d', hd', Disk.writeAt_grows hd'⟩

theorem keeps_takes (d₀ : Disk) (i : Ino) :
    Handle.Keeps fun _ h d => h.node = i ∧ d.Takes i ∧ d₀.Grows d where
  emit := by
    rintro _ h d bytes ⟨rfl, ht, hg⟩
    obtain ⟨d', hd', hg'⟩ := writeAt_takes ht (h.position d) bytes
    exact ⟨_, d', Handle.emit_ok hd', ⟨rfl, takes_grows ht hg', hg.trans hg'⟩, rfl, rfl⟩
  stores := fun _ _ h => h

def Machine.writeError? (m : Machine) (t : Target) : Option Errno :=
  t.path?.bind fun path =>
    match m.disk.place .create m.cwd path with
    | .ok (.found i) => m.disk.writeError? i
    | _ => none

namespace Sink

/-- The error with which every write to the file of a sink fails. -/
def writeError? (s : Sink) (d : Disk) : Option Errno :=
  match s.outlet with
  | .file h => if s.closed then none else d.writeError? h.node
  | _ => none

structure Firm (s : Sink) (d : Disk) : Prop where
  opened : s.closed = false
  takes : ∀ h, s.outlet = .file h → d.Takes h.node

structure Stuck (s : Sink) (d : Disk) (e : Errno) (h : Handle) : Prop where
  opened : s.closed = false
  outlet : s.outlet = .file h
  fails : d.writeError? h.node = some e

/-- A flush will go through. -/
def Calm (s : Sink) (d : Disk) : Prop := s.Firm d ∨ ∃ e h, s.Stuck d e h ∧ h.IsIdle

/-- A flush will fail. -/
def Busy (s : Sink) (d : Disk) (e : Errno) : Prop := ∃ h, s.Stuck d e h ∧ ¬ h.IsIdle

theorem firm_grows {s : Sink} {d d' : Disk} (h : s.Firm d) (hg : d.Grows d') : s.Firm d' :=
  ⟨h.opened, fun handle hh => takes_grows (h.takes handle hh) hg⟩

theorem stuck_grows {s : Sink} {d d' : Disk} {e : Errno} {h : Handle} (hs : s.Stuck d e h)
    (hg : d.Grows d') : s.Stuck d' e h :=
  ⟨hs.opened, hs.outlet, Disk.writeError?_grows hs.fails hg⟩

theorem calm_grows {s : Sink} {d d' : Disk} (h : s.Calm d) (hg : d.Grows d') : s.Calm d' := by
  rcases h with h | ⟨e, handle, h, hi⟩
  · exact Or.inl (firm_grows h hg)
  · exact Or.inr ⟨e, handle, stuck_grows h hg, hi⟩

theorem busy_grows {s : Sink} {d d' : Disk} {e : Errno} (h : s.Busy d e) (hg : d.Grows d') :
    s.Busy d' e := by
  obtain ⟨handle, h, hi⟩ := h
  exact ⟨handle, stuck_grows h hg, hi⟩

theorem firm_other {s : Sink} {d : Disk} (hopen : s.closed = false)
    (ho : ∀ h, s.outlet ≠ .file h) : s.Firm d :=
  ⟨hopen, fun h hh => absurd hh (ho h)⟩

/-! ## Firm sinks -/

section Firm

variable {s : Sink} {m : Machine} (hf : s.Firm m.disk)

include hf

theorem firm_write (text : String) :
    ∃ n s' m', write text s m = (.ok n, s', m') ∧ s'.Firm m'.disk ∧ m.disk.Grows m'.disk := by
  by_cases ht : text = ""
  · exact ⟨0, s, m, by simp [write, ht], hf, m.disk.grows_refl⟩
  cases ho : s.outlet with
  | console =>
    have hd : (if text.isEmpty then m else m.print s.stream text).disk = m.disk := by
      split
      · rfl
      · cases s.stream <;> rfl
    refine ⟨_, s, _, write_console hf.opened ho text m, ?_, ?_⟩
    · rw [hd]; exact hf
    · rw [hd]; exact m.disk.grows_refl
  | memory before =>
    refine ⟨text.length, { s with outlet := .memory (before ++ text) }, m, ?_, ?_,
      m.disk.grows_refl⟩
    · simp [write, ht, hf.opened, ho]
    · exact firm_other hf.opened (by rintro h ⟨⟩)
  | file h =>
    obtain ⟨content, h', d', hw, ⟨hn, ht', hg⟩, -⟩ :=
      Handle.write_ok (keeps_takes m.disk h.node) [] (Utf8.encode text)
        ⟨rfl, hf.takes h ho, m.disk.grows_refl⟩
    refine ⟨_, _, _, write_ok hf.opened ho ht hw, ⟨hf.opened, ?_⟩, hg⟩
    rintro h'' ⟨⟩
    exact hn ▸ ht'

theorem firm_flush :
    ∃ s' m', flush s m = (.ok (), s', m') ∧ s'.Firm m'.disk ∧ m.disk.Grows m'.disk := by
  cases ho : s.outlet with
  | file h =>
    obtain ⟨h', d', hw, ⟨hn, ht', hg⟩, -⟩ :=
      Handle.flush_ok (keeps_takes m.disk h.node) []
        ⟨rfl, hf.takes h ho, m.disk.grows_refl⟩
    refine ⟨_, _, flush_ok hf.opened ho hw, ⟨hf.opened, ?_⟩, hg⟩
    rintro h'' ⟨⟩
    exact hn ▸ ht'
  | _ => exact ⟨s, m, flush_other (by simp [ho]) m, hf, m.disk.grows_refl⟩

end Firm

/-! ## Stuck sinks -/

theorem encode_ne_nil {text : String} (ht : text ≠ "") : Utf8.encode text ≠ [] := by
  intro h
  apply ht
  rw [Utf8.encode, List.flatMap_eq_nil_iff] at h
  rw [← String.toList_eq_nil_iff, List.eq_nil_iff_forall_not_mem]
  exact fun c hc => String.utf8EncodeChar_ne_nil (h c hc)

section Stuck

variable {s : Sink} {m : Machine} {e : Errno} {h : Handle} (hs : s.Stuck m.disk e h)

include hs

theorem stuck_write_short (hi : h.IsIdle) {text : String} (ht : text ≠ "")
    (hlen : (Utf8.encode text).length < Handle.chunkSize) :
    ∃ s', write text s m = (.ok text.length, s', m) ∧ s'.Busy m.disk e := by
  have hb := encode_ne_nil ht
  have hw := Handle.write_stuck hs.fails hi hb
  rw [if_pos hlen] at hw
  refine ⟨_, write_ok hs.opened hs.outlet ht hw, { h with text := Utf8.encode text },
    ⟨hs.opened, rfl, hs.fails⟩, fun hi' => hb hi'.1⟩

theorem stuck_write_long (hi : h.IsIdle) {text : String} (ht : text ≠ "")
    (hlen : ¬ (Utf8.encode text).length < Handle.chunkSize) :
    write text s m = (.error (.system e none), s, m) := by
  have hw := Handle.write_stuck hs.fails hi (encode_ne_nil ht)
  rw [if_neg hlen] at hw
  have hs' : { s with outlet := .file h } = s := by rw [← hs.outlet]
  exact hs' ▸ write_error hs.opened hs.outlet ht hw

end Stuck

/-! ## Calm and busy sinks -/

variable {s : Sink} {m : Machine}

theorem writeError?_eq_some {d : Disk} {e : Errno} :
    s.writeError? d = some e ↔ ∃ h, s.Stuck d e h := by
  unfold writeError?
  constructor
  · intro he
    split at he
    · next h ho =>
      split at he
      · cases he
      · next hopen => exact ⟨h, by simpa using hopen, ho, he⟩
    · cases he
  · rintro ⟨h, hs⟩
    simp [hs.outlet, hs.opened, hs.fails]

theorem firm_writeError {d : Disk} (hf : s.Firm d) : s.writeError? d = none := by
  rw [Option.eq_none_iff_forall_ne_some]
  intro e he
  obtain ⟨h, hs⟩ := writeError?_eq_some.mp he
  have hk := Disk.writeError?_eq_some.mp hs.fails
  rcases hf.takes h hs.outlet with hk' | hk'
  · simp [hk'] at hk
  · simp [hk'] at hk

theorem calm_flush (hc : s.Calm m.disk) :
    ∃ s' m', flush s m = (.ok (), s', m') ∧ s'.Calm m'.disk ∧ m.disk.Grows m'.disk := by
  rcases hc with hf | ⟨e, h, hs, hi⟩
  · obtain ⟨s', m', hflush, hf', hg⟩ := firm_flush hf
    exact ⟨s', m', hflush, Or.inl hf', hg⟩
  · exact ⟨_, _, flush_ok hs.opened hs.outlet (Handle.flush_idle hi m.disk),
      Or.inr ⟨e, h, ⟨hs.opened, rfl, hs.fails⟩, hi⟩, m.disk.grows_refl⟩

theorem calm_opened {d : Disk} (hc : s.Calm d) : s.closed = false := by
  rcases hc with hf | ⟨e, h, hs, -⟩
  · exact hf.opened
  · exact hs.opened

theorem calm_close (hc : s.Calm m.disk) :
    ∃ s' m', close s m = (.ok (), s', m') ∧ m.disk.Grows m'.disk := by
  obtain ⟨s', m', hflush, -, hg⟩ := calm_flush hc
  obtain ⟨s'', hclose⟩ := close_flushed (calm_opened hc) hflush
  exact ⟨s'', m', hclose, hg⟩

theorem busy_flush {e : Errno} (hb : s.Busy m.disk e) :
    ∃ s' m', flush s m = (.error (.system e none), s', m') ∧
      (s'.Calm m'.disk ∨ s'.Busy m'.disk e) ∧ m.disk.Grows m'.disk := by
  obtain ⟨h, hs, hi⟩ := hb
  obtain ⟨h', hflush, hn⟩ := Handle.flush_stuck hs.fails hi
  have hfails : m.disk.writeError? h'.node = some e := hn ▸ hs.fails
  refine ⟨_, _, flush_error hs.opened hs.outlet hflush, ?_, m.disk.grows_refl⟩
  by_cases hi' : h'.IsIdle
  · exact Or.inl (Or.inr ⟨e, h', ⟨hs.opened, rfl, hfails⟩, hi'⟩)
  · exact Or.inr ⟨h', ⟨hs.opened, rfl, hfails⟩, hi'⟩

theorem busy_close {e : Errno} (hb : s.Busy m.disk e) :
    ∃ s' m', close s m = (.error (.system e none), s', m') ∧ m.disk.Grows m'.disk := by
  obtain ⟨s', m', hflush, -, hg⟩ := busy_flush hb
  obtain ⟨h, hs, -⟩ := hb
  exact ⟨s', m', close_unflushed hs.opened hflush, hg⟩

theorem calm_not_busy {d : Disk} {e : Errno} (hc : s.Calm d) : ¬ s.Busy d e := by
  rintro ⟨h, hs, hi⟩
  rcases hc with hf | ⟨e', h', hs', hi'⟩
  · cases (firm_writeError hf).symm.trans (writeError?_eq_some.mpr ⟨h, hs⟩)
  · have hh : h' = h := Outlet.file.inj (hs'.outlet.symm.trans hs.outlet)
    exact hi (hh ▸ hi')

theorem writeError?_grows {d d' : Disk} (hc : s.Calm d) (hg : d.Grows d') :
    s.writeError? d' = s.writeError? d := by
  rcases hc with hf | ⟨e, h, hs, -⟩
  · rw [firm_writeError hf, firm_writeError (firm_grows hf hg)]
  · rw [writeError?_eq_some.mpr ⟨h, hs⟩, writeError?_eq_some.mpr ⟨h, stuck_grows hs hg⟩]

theorem calm_write (hc : s.Calm m.disk) {text : String} (ht : text ≠ "") :
    (s.writeError? m.disk = none ∧ ∃ n s' m', write text s m = (.ok n, s', m') ∧
        s'.Calm m'.disk ∧ m.disk.Grows m'.disk) ∨
      ∃ e, s.writeError? m.disk = some e ∧
        ((Utf8.encode text).length < Handle.chunkSize ∧
            (∃ n s', write text s m = (.ok n, s', m) ∧ s'.Busy m.disk e) ∨
          ¬ (Utf8.encode text).length < Handle.chunkSize ∧
            write text s m = (.error (.system e none), s, m)) := by
  rcases hc with hf | ⟨e, h, hs, hi⟩
  · obtain ⟨n, s', m', hw, hf', hg⟩ := firm_write hf text
    exact Or.inl ⟨firm_writeError hf, n, s', m', hw, Or.inl hf', hg⟩
  · refine Or.inr ⟨e, writeError?_eq_some.mpr ⟨h, hs⟩, ?_⟩
    by_cases hlen : (Utf8.encode text).length < Handle.chunkSize
    · obtain ⟨s', hw, hb⟩ := stuck_write_short hs hi ht hlen
      exact Or.inl ⟨hlen, _, s', hw, hb⟩
    · exact Or.inr ⟨hlen, stuck_write_long hs hi ht hlen⟩

/-! ## Opening -/

theorem toFile_calm {stream : Stream} {path : String} {mode : OpenMode} {m' : Machine}
    (h : toFile stream path mode m = .ok (s, m')) : s.Calm m'.disk ∧ m.disk.Grows m'.disk := by
  unfold toFile at h
  split at h
  · cases h
  · split at h
    · next handle disk ho =>
      cases h
      obtain ⟨i, hopen, rfl⟩ := Handle.openAt_ok ho
      obtain ⟨hg, k, hk, hopened⟩ := Disk.open_kind hopen
      refine ⟨?_, hg⟩
      cases hopened with
      | regular => exact Or.inl ⟨rfl, by rintro _ ⟨⟩; exact Or.inl hk⟩
      | null => exact Or.inl ⟨rfl, by rintro _ ⟨⟩; exact Or.inr hk⟩
      | failing e =>
        exact Or.inr ⟨e, _, ⟨rfl, rfl, Disk.writeError?_eq_some.mpr hk⟩, ⟨rfl, rfl⟩⟩
    · cases h

theorem ofTarget_calm {stream : Stream} {t : Target} {m' : Machine}
    (h : ofTarget stream t m = .ok (s, m')) : s.Calm m'.disk ∧ m.disk.Grows m'.disk := by
  unfold ofTarget at h
  split at h
  · cases h
    exact ⟨Or.inl (firm_other rfl (by rintro _ ⟨⟩)), m.disk.grows_refl⟩
  · exact toFile_calm h

theorem ofTarget_writeError {stream : Stream} {t : Target} {m' : Machine}
    (h : ofTarget stream t m = .ok (s, m')) : s.writeError? m'.disk = m.writeError? t := by
  unfold ofTarget at h
  split at h
  · next hp =>
    cases h
    rw [Machine.writeError?, hp]
    rfl
  · next path hp =>
    unfold toFile at h
    split at h
    · cases h
    · split at h
      · next handle disk ho =>
        cases h
        obtain ⟨i, hopen, rfl⟩ := Handle.openAt_ok ho
        rw [Machine.writeError?, hp]
        exact Disk.open_writeError hopen
      · cases h

theorem ofTarget_error {stream : Stream} {t : Target} {f : Fault}
    (h : ofTarget stream t m = .error f) :
    (∃ path, t.path? = some path ∧ Disk.isPathText path = false ∧ f = .nullByte) ∨
      ∃ path reason, t.path? = some path ∧ Disk.isPathText path = true ∧
        f = .redirection path reason := by
  unfold ofTarget at h
  split at h
  · cases h
  · next path hp =>
    unfold toFile at h
    split at h
    · next hpath =>
      cases h
      exact Or.inl ⟨path, hp, by simpa using hpath, rfl⟩
    · next hpath =>
      split at h
      · cases h
      · cases h
        exact Or.inr ⟨path, _, hp, by simpa using hpath, rfl⟩

end Sink

end CommandShell
