import CommandShell.Proofs.Command.Deed
import CommandShell.Proofs.Command.Scene
import CommandShell.Proofs.File.Twin

/-!
# Two machines side by side

A step that is taken on two machines which differ in nothing that it looks at comes to the same
result on both, and leaves them alike. What may differ is told by a relation: it has to outlast the
few changes that steps make.
-/

open CommandShell.Effect CommandShell.Scene

namespace CommandShell

/-! ## Machines -/

/-- A machine without what commands only leave behind. -/
def Machine.core (m : Machine) : Machine :=
  { m with out := {}, err := {}, events := #[], prompts := #[] }

/-- Related machines look the same to every step but for their disks, which are related, and they
stay related whatever a step changes. -/
structure Machine.Parallel (R : Machine → Machine → Prop) (D : Disk → Disk → Prop)
    (H : Handle → Handle → Prop) : Prop where
  files : Disk.Parallel D H
  core : ∀ {m m'}, R m m' → m'.core = { m.core with disk := m'.disk }
  alike : ∀ {m m'}, R m m' → D m.disk m'.disk
  disk : ∀ {m m'}, R m m' → ∀ {d d'}, D d d' → R { m with disk := d } { m' with disk := d' }
  cwd : ∀ {m m'}, R m m' → ∀ cwd, R { m with cwd } { m' with cwd }
  note : ∀ {m m'}, R m m' → ∀ e, R (m.note e) (m'.note e)
  print : ∀ {m m'}, R m m' → ∀ (stream : Stream) (text : String), text ≠ "" →
    R (m.print stream text) (m'.print stream text)

namespace Disk.SameTree

variable {d d' : Disk} (h : d.SameTree d')

include h

theorem findProgram? (m : Machine) (hd : m.disk = d) (name : String) (given? : Option String) :
    ({ m with disk := d' } : Machine).findProgram? name given? = m.findProgram? name given? := by
  subst hd
  have hprogram : Machine.hasProgram { m with disk := d' } = m.hasProgram := by
    funext path
    simp only [Machine.hasProgram, Disk.hasNode, h.locate, h.hasDirectory]
  rw [Machine.findProgram?, Machine.findProgram?, hprogram]
  rfl

theorem cwdPath (m : Machine) (hd : m.disk = d) :
    ({ m with disk := d' } : Machine).cwdPath = m.cwdPath := by
  subst hd
  rw [Machine.cwdPath, Machine.cwdPath, h.pathOf?]

end Disk.SameTree

variable {R : Machine → Machine → Prop} {D : Disk → Disk → Prop} {H : Handle → Handle → Prop}
  (hR : Machine.Parallel R D H)

include hR

namespace Machine

variable {m m' : Machine} (hm : R m m')

include hm

theorem twin_tree : m.disk.SameTree m'.disk := hR.files.tree (hR.alike hm)

theorem twin_cwd : m'.cwd = m.cwd := (congrArg Machine.cwd (hR.core hm) :)

theorem twin_findProgram? (name : String) (given? : Option String) :
    m'.findProgram? name given? = m.findProgram? name given? :=
  (congrArg (findProgram? · name given?) (hR.core hm)).trans
    ((twin_tree hR hm).findProgram? m rfl name given?)

theorem twin_cwdPath : m'.cwdPath = m.cwdPath :=
  (congrArg Machine.cwdPath (hR.core hm)).trans ((twin_tree hR hm).cwdPath m rfl)

theorem twin_resolve (path : String) : m'.resolve path none = m.resolve path none := by
  have henvironment : m'.environment = m.environment :=
    (congrArg Machine.environment (hR.core hm) :)
  simp only [resolve, resolve.here, henvironment, twin_cwdPath hR hm]

theorem twin_openAt (path : String) (mode : OpenMode) :
    Same (Handle.Beside D H) (Handle.openAt m.disk m.cwd path mode)
      (Handle.openAt m'.disk m'.cwd path mode) := by
  rw [twin_cwd hR hm]
  exact hR.files.openAt (hR.alike hm) m.cwd path mode

theorem twin_lookUp (name : String) (given? : Option String) :
    ∃ found? n n', m.lookUp name given? = (found?, n) ∧ m'.lookUp name given? = (found?, n') ∧
      R n n' := by
  unfold lookUp
  rw [twin_findProgram? hR hm]
  cases m.findProgram? name given? with
  | none => exact ⟨none, m, m', rfl, rfl, hm⟩
  | some path => exact ⟨some path, _, _, rfl, rfl, hR.note hm _⟩

theorem twin_enter (path : String) : Same R (m.enter path) (m'.enter path) := by
  have hchdir : m'.chdirError = m.chdirError := (congrArg chdirError (hR.core hm) :)
  have htree := twin_tree hR hm
  unfold enter
  rw [hchdir, twin_cwd hR hm, htree.locate]
  split
  · exact .error _
  · split
    · exact .error _
    · rw [htree.isDirectory]
      split
      · have hmoved := hR.cwd hm
        rw [hchdir] at hmoved
        exact .ok (hmoved _)
      · exact .error _

theorem twin_changeDirectory (path : String) :
    ∃ moved n n', m.changeDirectory path = (moved, n) ∧ m'.changeDirectory path = (moved, n') ∧
      R n n' := by
  have henter := twin_enter hR hm path
  unfold changeDirectory
  rw [twin_cwd hR hm, (twin_tree hR hm).hasDirectory]
  split
  · exact ⟨_, m, m', rfl, rfl, hm⟩
  · generalize m.enter path = x, m'.enter path = x' at henter
    cases henter with
    | error e => exact ⟨_, m, m', rfl, rfl, hm⟩
    | ok hn => exact ⟨_, _, _, rfl, rfl, hR.note hn _⟩

end Machine

/-! ## Sinks -/

omit hR in
inductive Outlet.Beside (H : Handle → Handle → Prop) : Outlet → Outlet → Prop
  | console : Beside H .console .console
  | file {h h' : Handle} : H h h' → Beside H (.file h) (.file h')
  | memory (text : String) : Beside H (.memory text) (.memory text)

namespace Sink

def Beside (H : Handle → Handle → Prop) (s s' : Sink) : Prop :=
  ∃ outlet, s.outlet.Beside H outlet ∧ s' = { s with outlet }

/-- On related machines the step comes to one result and leaves related sinks. -/
def Twin (R : Machine → Machine → Prop) (H : Handle → Handle → Prop) {α : Type} (step : Step α) :
    Prop :=
  ∀ (s s' : Sink) (m m' : Machine), s.Beside H s' → R m m' →
    ∃ r t t' n n', step s m = (r, t, n) ∧ step s' m' = (r, t', n') ∧ t.Beside H t' ∧ R n n'

variable {m m' : Machine} (hm : R m m')

include hm in
theorem twin_onHandle (s : Sink) {h h' : Handle} (hh : H h h') {step : Handle.Step}
    (hstep : Effect.Twin (Handle.Beside D H) step) :
    ∃ r t t' n n', s.onHandle h step m = (r, t, n) ∧
      ({ s with outlet := .file h' } : Sink).onHandle h' step m' = (r, t', n') ∧
      t.Beside H t' ∧ R n n' := by
  obtain ⟨r, ⟨k, d⟩, ⟨k', d'⟩, hk, hk', hkk, hdd⟩ :=
    hstep (h, m.disk) (h', m'.disk) ⟨hh, hR.alike hm⟩
  unfold onHandle
  rw [hk, hk']
  exact ⟨_, _, _, _, _, rfl, rfl, ⟨_, .file hkk, rfl⟩, hR.disk hm hdd⟩

theorem twin_write (text : String) : Twin R H (write text) := by
  rintro ⟨stream, out, name, closed⟩ s' m m' ⟨outlet, ho, rfl⟩ hm
  unfold write
  by_cases ht : text = ""
  · subst ht
    exact ⟨.ok 0, _, _, _, _, rfl, rfl, ⟨_, ho, rfl⟩, hm⟩
  · have hsome : text.isEmpty = false := by simpa using ht
    rw [hsome]
    simp only [Bool.false_eq_true, if_false]
    split
    · exact ⟨_, _, _, _, _, rfl, rfl, ⟨_, ho, rfl⟩, hm⟩
    · cases ho with
      | console => exact ⟨_, _, _, _, _, rfl, rfl, ⟨_, .console, rfl⟩, hR.print hm stream text ht⟩
      | memory before => exact ⟨_, _, _, _, _, rfl, rfl, ⟨_, .memory _, rfl⟩, hm⟩
      | @file h h' hh =>
        obtain ⟨r, t, t', n, n', hw, hw', hb, hn⟩ := twin_onHandle hR hm
          ⟨stream, .file h, name, closed⟩ hh (Handle.twin_write hR.files (Utf8.encode text))
        simp only [hw, hw']
        cases r with
        | error f => exact ⟨.error f, t, t', n, n', rfl, rfl, hb, hn⟩
        | ok _ => exact ⟨_, t, t', n, n', rfl, rfl, hb, hn⟩

theorem twin_flush : Twin R H flush := by
  rintro ⟨stream, out, name, closed⟩ s' m m' ⟨outlet, ho, rfl⟩ hm
  unfold flush
  cases ho with
  | @file h h' hh =>
    simp only
    split
    · exact ⟨_, _, _, _, _, rfl, rfl, ⟨_, .file hh, rfl⟩, hm⟩
    · exact twin_onHandle hR hm ⟨stream, .file h, name, closed⟩ hh (Handle.twin_flush hR.files)
  | console => exact ⟨_, _, _, _, _, rfl, rfl, ⟨_, .console, rfl⟩, hm⟩
  | memory text => exact ⟨_, _, _, _, _, rfl, rfl, ⟨_, .memory text, rfl⟩, hm⟩

theorem twin_close : Twin R H close := by
  rintro s s' m m' hs hm
  obtain ⟨r, ⟨stream, out, name, closed⟩, t', n, n', ht, ht', ⟨outlet', ho', rfl⟩, hn⟩ :=
    twin_flush hR s s' m m' hs hm
  obtain ⟨outlet, ho, rfl⟩ := hs
  unfold close
  rw [ht, ht']
  simp only
  split
  · exact ⟨_, _, _, _, _, rfl, rfl, ⟨outlet, ho, rfl⟩, hm⟩
  · cases r with
    | error f => exact ⟨.error f, _, _, n, n', rfl, rfl, ⟨outlet', ho', rfl⟩, hn⟩
    | ok _ =>
      cases ho' with
      | file hh => exact ⟨.ok (), _, _, n, n', rfl, rfl, ⟨_, .file hh, rfl⟩, hn⟩
      | console => exact ⟨.ok (), _, _, n, n', rfl, rfl, ⟨_, .console, rfl⟩, hn⟩
      | memory text => exact ⟨.ok (), _, _, n, n', rfl, rfl, ⟨_, .memory text, rfl⟩, hn⟩

include hm

theorem twin_abandon {s s' : Sink} (hs : s.Beside H s') : R (s.abandon m) (s'.abandon m') := by
  obtain ⟨r, t, t', n, n', ht, ht', -, hn⟩ := twin_flush hR s s' m m' hs hm
  obtain ⟨outlet, -, rfl⟩ := hs
  unfold abandon
  rw [ht, ht']
  split
  · exact hm
  · exact hn

theorem twin_abandonAll {sinks sinks' : List Sink} (hs : List.Forall₂ (Beside H) sinks sinks') :
    R (sinks.foldl (fun m s => s.abandon m) m) (sinks'.foldl (fun m s => s.abandon m) m') := by
  induction hs generalizing m m' with
  | nil => exact hm
  | cons h _ ih => exact ih (twin_abandon hR hm h)

theorem twin_ofTarget (stream : Stream) (t : Target) :
    Same (fun a a' => a.1.Beside H a'.1 ∧ R a.2 a'.2) (ofTarget stream t m)
      (ofTarget stream t m') := by
  unfold ofTarget
  cases t.path? with
  | none => exact .ok ⟨⟨_, .console, rfl⟩, hm⟩
  | some path =>
    have hopen := Machine.twin_openAt hR hm path t.mode
    simp only [toFile]
    split
    · exact .error _
    · generalize Handle.openAt m.disk m.cwd path t.mode = x,
        Handle.openAt m'.disk m'.cwd path t.mode = x' at hopen
      cases hopen with
      | error e => exact .error _
      | ok h => exact .ok ⟨⟨_, .file h.1, rfl⟩, hR.disk hm h.2⟩

end Sink

/-! ## Scenes -/

omit hR in
def Scene.Beside (R : Machine → Machine → Prop) (H : Handle → Handle → Prop) (s s' : Scene) :
    Prop :=
  R s.machine s'.machine ∧ s.out.Beside H s'.out ∧ s.err.Beside H s'.err

namespace Act

omit hR in
theorem twin_onSink (stream : Stream) {α : Type} {step : Sink.Step α}
    (hstep : Sink.Twin R H step) : Twin (Scene.Beside R H) (onSink stream step) := by
  rintro s s' ⟨hm, ho, he⟩
  have hsink : (s.sink stream).Beside H (s'.sink stream) := by
    cases stream
    · exact ho
    · exact he
  obtain ⟨r, t, t', n, n', ht, ht', hb, hn⟩ := hstep _ _ _ _ hsink hm
  refine ⟨_, _, _, onSink_apply stream ht, onSink_apply stream ht', ?_⟩
  cases stream
  · exact ⟨hn, hb, he⟩
  · exact ⟨hn, ho, hb⟩

theorem twin_write (stream : Stream) (text : String) :
    Twin (Scene.Beside R H) (write stream text) :=
  twin_bind (twin_onSink stream (Sink.twin_write hR text)) fun _ => twin_pure ()

theorem twin_flushBoth : Twin (Scene.Beside R H) Call.flushBoth :=
  twin_bind (twin_onSink .out (Sink.twin_flush hR)) fun _ =>
    twin_onSink .err (Sink.twin_flush hR)

theorem twin_closeBoth : Twin (Scene.Beside R H) (onBoth Sink.close) :=
  twin_bind (twin_onSink .out (Sink.twin_close hR)) fun _ =>
    twin_onSink .err (Sink.twin_close hR)

end Act

/-! ## Builtins -/

omit hR in
inductive Deed.Beside (R : Machine → Machine → Prop) : Deed → Deed → Prop
  | tells {m m' : Machine} (stream : Stream) (text : String) (status : Int) :
      R m m' → Beside R (.tells stream text status m) (.tells stream text status m')
  | silent {m m' : Machine} (status : Int) :
      R m m' → Beside R (.silent status m) (.silent status m')
  | fails (f : Fault) : Beside R (.fails f) (.fails f)
  | leaves (status : ExitStatus) : Beside R (.leaves status) (.leaves status)

theorem deed_twin {d d' : Deed} (hd : d.Beside R d') {s s' : Scene} (hs : s.Beside R H s') :
    ∃ r t t', d.act s = (r, t) ∧ d'.act s' = (r, t') ∧ Scene.Beside R H t t' := by
  cases hd with
  | tells stream text status hm =>
    rw [Deed.tells_act, Deed.tells_act]
    exact twin_bind (Act.twin_write hR stream text) (fun _ => twin_pure status) _ _
      ⟨hm, hs.2.1, hs.2.2⟩
  | silent status hm => exact ⟨_, _, _, rfl, rfl, hm, hs.2.1, hs.2.2⟩
  | fails f => exact ⟨_, s, s', rfl, rfl, hs⟩
  | leaves status => exact ⟨_, s, s', rfl, rfl, hs⟩

theorem deeds_beside {name : String} {deed : String → Machine → Deed}
    (h : Builtin.deeds.lookup name = some deed) (args : String) {m m' : Machine} (hm : R m m') :
    (deed args m).Beside R (deed args m') := by
  rcases Builtin.deeds_mem h with ⟨-, rfl⟩ | ⟨-, rfl⟩ | ⟨-, rfl⟩ | ⟨-, rfl⟩ | ⟨-, rfl⟩
  · unfold Builtin.cdDeed
    rw [Machine.twin_resolve hR hm]
    split
    · exact .fails _
    · cases m.resolve args none with
      | error f => exact .fails f
      | ok path =>
        obtain ⟨moved, n, n', hn, hn', hnn⟩ := Machine.twin_changeDirectory hR hm path
        simp only [hn, hn']
        split
        · exact .silent 0 hnn
        · exact .tells .err _ 1 hnn
  · exact .tells .out _ 0 hm
  · unfold Builtin.exitDeed
    split
    · exact .leaves _
    · exact .fails _
  · unfold Builtin.pwdDeed
    rw [Machine.twin_cwdPath hR hm]
    cases m.cwdPath with
    | error e => exact .fails _
    | ok path => exact .tells .out _ 0 hm
  · unfold Builtin.typeDeed
    split
    · exact .fails _
    · split
      · exact .tells .out _ 0 hm
      · obtain ⟨found?, n, n', hn, hn', hnn⟩ := Machine.twin_lookUp hR hm args none
        simp only [hn, hn']
        cases found? with
        | none => exact .tells .out _ 1 hnn
        | some path => exact .tells .out _ 0 hnn

/-- A builtin does the same on related machines. -/
theorem builtin_twin {name : String} {handler : Handler}
    (h : Builtin.handlers.lookup name = some handler) (e : Errand) :
    Twin (Scene.Beside R H) (handler e) := by
  rcases Builtin.handlers_deeds name with ⟨hnone, -⟩ | ⟨handler', deed, hh, hl, hd⟩
  · rw [hnone] at h
    cases h
  · cases hh.symm.trans h
    intro s s' hs
    rw [TwinAt, hd e s, hd e s']
    exact deed_twin hR (deeds_beside hR hl e.argText hs.1) hs

end CommandShell
