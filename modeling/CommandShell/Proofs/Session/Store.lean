import CommandShell.Proofs.Command.Delivery
import CommandShell.Proofs.Session.Visit

/-!
# Sessions as a store of files

A run of commands does to the files what folding their emissions over the contents does, whether a
command is a builtin that writes row by row or a program whose output is caught and written when it
has ended.
-/

open CommandShell.Effect

namespace CommandShell

def Command.target (c : Command) : Stream → Target
  | .out => c.out
  | .err => c.err

def Deed.status? : Deed → Option Int
  | tells _ _ status _ => some status
  | silent status _ => some status
  | _ => none

def Deed.row : Deed → List (Stream × String)
  | tells stream text _ _ => [(stream, text)]
  | _ => []

def capturedTexts (out err : Bytes) : Stream → List String
  | .out => [capturedText out]
  | .err => [capturedText err]

/-- What a command lets out: the texts of its streams in the order in which they were written, the
targets of the streams, and the directory in which the targets are meant. -/
structure Emission where
  cwd : Ino
  target : Stream → Target
  texts : Stream → List String

namespace Emission

def store (e : Emission) (d : Disk) (dir : Ino) (path : String) (held : Option Bytes) :
    Option Bytes :=
  (e.target .err).store d e.cwd (String.join (e.texts .err)) dir path
    ((e.target .out).store d e.cwd (String.join (e.texts .out)) dir path held)

/-- The texts that go to the console of a stream. -/
def onConsole (e : Emission) (stream : Stream) : List String :=
  if (e.target stream).isConsole then e.texts stream else []

/-- Each target is the console or a file that can be opened and written, and not both are one
file. -/
structure Fits (e : Emission) (d : Disk) : Prop where
  targets : ∀ stream, (e.target stream).Fits d e.cwd
  distinct : (e.target .out).Distinct (e.target .err) d e.cwd

theorem write_shown {e : Emission} {stream : Stream} (text : String)
    (h : e.texts stream = [text]) (c : Console) : c.write (c.shown stream (e.onConsole stream)) =
      if (e.target stream).isConsole then c.write (c.look stream text) else c := by
  unfold onConsole Console.shown
  split
  · simp only [h, List.map_cons, List.map_nil, String.join_cons, String.join_nil,
      String.append_empty]
  · exact write_empty c

end Emission

/-- An emission has been brought where it belongs. -/
structure Delivered (m m' : Machine) (e : Emission) : Prop where
  preserves : m.disk.Preserves m'.disk
  contents : ∀ dir path,
    m'.disk.content? dir path = e.store m.disk dir path (m.disk.content? dir path)
  consoles : ∀ stream, m'.console stream =
    (m.console stream).write ((m.console stream).shown stream (e.onConsole stream))

namespace Session

/-- The command lets out an emission: as a builtin whose handler writes it and returns, or as a
program that leaves the files alone. -/
inductive Emitting (sh : Session) (m : Machine) (c : Command) : Emission → Prop
  | builtin {handler : Handler} {out err : Sink} {m₁ m₂ : Machine} {status : Int} {s : Scene}
      {es : List (Stream × String)} :
      sh.handlers.lookup c.name = some handler →
      Sink.ofTarget .out c.out (m.note (.builtin c.name c.args)) = .ok (out, m₁) →
      Sink.ofTarget .err c.err m₁ = .ok (err, m₂) →
      handler c.errand ⟨m₂, out, err⟩ = (.ok status, s) →
      Emits ⟨m₂, out, err⟩ es s →
      Emitting sh m c ⟨m.cwd, c.target, (textsOn · es)⟩
  | program {file path : String} {m₁ : Machine} {finished : Finished} :
      sh.handlers.lookup c.name = none →
      (m.note (.external c.name c.args)).lookUp c.name none = (some file, m₁) →
      m₁.start file (c.name :: c.args) = .ok (path, finished) →
      finished.disk = m.disk →
      Emitting sh m c ⟨m.cwd, c.target, capturedTexts finished.out finished.err⟩

/-! ## Builtins -/

theorem between_emits {call : Call} {handler : Handler} {s s' : Scene} {status : Int}
    {es : List (Stream × String)} (hh : call.handler? = some handler) (hr : s.Ready)
    (hrun : handler call.toErrand s = (.ok status, s')) (he : Emits s es s') :
    (between call s).result = .ok status ∧
      (es.foldl (Machine.bring · s.port?) s.settled).Agrees (between call s).machine ∧
      ∀ m, (between call s).sinks.foldl (fun m s => s.abandon m) m = m := by
  obtain ⟨hr₁, -, ha₁⟩ := emits_brings he hr
  obtain ⟨s₂, hflush, hr₂, ha₂⟩ := ready_flushBoth hr₁
  obtain ⟨s₃, hclose, ha₃, hleft⟩ := ready_closeBoth hr₂
  have hcall := Call.run_flushed hh (Call.settle_ok hrun) hflush
  rw [between_eq hcall hclose]
  exact ⟨rfl, (ha₁.trans ha₂).trans ha₃, hleft⟩

theorem sinks_fit {c : Command} {m m₁ m₂ : Machine} {out err : Sink} (hs : m.disk.Sound)
    (htargets : ∀ stream, (c.target stream).Fits m.disk m.cwd)
    (hdistinct : c.out.Distinct c.err m.disk m.cwd)
    (ho : Sink.ofTarget .out c.out m = .ok (out, m₁))
    (he : Sink.ofTarget .err c.err m₁ = .ok (err, m₂)) :
    Scene.Ready ⟨m₂, out, err⟩ ∧ (Scene.settled ⟨m₂, out, err⟩).disk = m₂.disk ∧
      (∀ stream, m₂.console stream = m.console stream) ∧
      c.out.Opens m.disk m₁.disk m.cwd out.port? ∧
      c.err.Opens m₁.disk m₂.disk m.cwd err.port? := by
  -- The output is opened on the disk as it was, the errors on the one with the output open.
  obtain ⟨out', d₁, ho', hso, hro, hsetout, hopens⟩ := ofTarget_fits hs (htargets .out) .out
  have hout : Sink.ofTarget .out c.out m = .ok (out', { m with disk := d₁ }) := ho'
  rw [ho] at hout
  obtain ⟨rfl, rfl⟩ := Prod.mk.inj (Except.ok.inj hout)
  have hk := Target.opens_preserves hs hopens
  obtain ⟨err', d₂, he', hse, hre, hseterr, hopens'⟩ :=
    ofTarget_fits (m := { m with disk := d₁ }) hk.sound (fits_preserves (htargets .err) hk) .err
  have herr : Sink.ofTarget .err c.err { m with disk := d₁ } =
      .ok (err', { m with disk := d₂ }) := he'
  rw [he] at herr
  obtain ⟨rfl, rfl⟩ := Prod.mk.inj (Except.ok.inj herr)
  have hk' := Target.opens_preserves hk.sound hopens'
  have hapart : Disk.Apart out.port? err.port? :=
    distinct_apart (Target.distinct_names (hk.trans hk').names hdistinct)
      (Target.leads_preserves (Target.opens_leads hopens) hk') (Target.opens_leads hopens')
  refine ⟨⟨?_, ?_, ?_⟩, ?_, fun stream => by cases stream <;> rfl, hopens, hopens'⟩
  · rintro (_ | _)
    · exact ready_opens hro hopens' hapart
    · exact hre
  · rintro (_ | _)
    · exact hso
    · exact hse
  · rintro (_ | _) (_ | _) h
    · exact absurd rfl h
    · exact hapart
    · exact fun i hi hi' => hapart i hi' hi
    · exact absurd rfl h
  · simp only [Scene.settled, hsetout, hseterr]

theorem runBuiltin_delivers {c : Command} {handler : Handler} {out err : Sink}
    {m m₁ m₂ : Machine} {status : Int} {s : Scene} {es : List (Stream × String)}
    (hs : m.disk.Sound) (hf : Emission.Fits ⟨m.cwd, c.target, (textsOn · es)⟩ m.disk)
    (ho : Sink.ofTarget .out c.out m = .ok (out, m₁))
    (he : Sink.ofTarget .err c.err m₁ = .ok (err, m₂))
    (hrun : handler c.errand ⟨m₂, out, err⟩ = (.ok status, s))
    (hemits : Emits ⟨m₂, out, err⟩ es s) :
    ∃ m', runBuiltin c handler m = (.ok status, m') ∧
      Delivered m m' ⟨m.cwd, c.target, (textsOn · es)⟩ := by
  obtain ⟨hready, hdisk, hconsole, hopens, hopens'⟩ :=
    sinks_fit hs hf.targets hf.distinct ho he
  let call := c.call handler
  have hhandler : call.handler? = some handler := rfl
  obtain ⟨hresult, hagrees, hleft⟩ := between_emits hhandler hready hrun hemits
  have hvisit : visit c handler m = between call ⟨m₂, out, err⟩ := visit_opened ho he
  obtain ⟨hpreserves, hcontents⟩ := Target.store_both hs hopens hopens' hf.distinct
    (String.join (textsOn .out es)) (String.join (textsOn .err es))
  have hmachine := hagrees.disk
  rw [bringAll_disk (hready.apart .out .err (by rintro ⟨⟩)), hdisk] at hmachine
  refine ⟨(between call ⟨m₂, out, err⟩).machine, ?_, ?_, ?_, fun stream => ?_⟩
  · rw [runBuiltin, hvisit, hleft, hresult]
  · rw [hmachine]
    exact hpreserves
  · rw [hmachine]
    exact hcontents
  · have hc : (Scene.settled ⟨m₂, out, err⟩).console stream = m.console stream := hconsole stream
    have hport : Scene.port? ⟨m₂, out, err⟩ stream = none ↔
        (c.target stream).isConsole = true := by
      cases stream with
      | out => exact Target.opens_console hopens
      | err => exact Target.opens_console hopens'
    rw [hagrees.console, bringAll_console, hc, Emission.onConsole]
    by_cases hconsole : (c.target stream).isConsole = true
    · rw [if_pos (hport.mpr hconsole), if_pos hconsole]
    · rw [if_neg (fun h => hconsole (hport.mp h)), if_neg hconsole]
      exact (write_empty _).symm

/-! ## Builtins of the registry -/

theorem deed_emits {deed : Deed} {s : Scene} {status : Int} (hr : s.Ready)
    (hm : deed.IsMild s.machine) (hst : deed.status? = some status) :
    ∃ s', deed.act s = (.ok status, s') ∧ Emits s deed.row s' := by
  cases deed with
  | tells stream text status' m =>
    cases hst
    obtain ⟨hr', -⟩ := Scene.ready_other hr hm.1
    obtain ⟨s', hw, -⟩ := Scene.ready_write hr' stream text
    refine ⟨s', ?_, .other hm.1 (.write ?_)⟩
    · rw [Deed.tells_act, bind_ok hw]
      rfl
    · rw [hw]
      exact .done s'
  | silent status' m =>
    cases hst
    exact ⟨_, rfl, .other hm (.done _)⟩
  | fails f => cases hst
  | leaves status' => cases hst

theorem emitting_deed (settings : Settings) {c : Command} {deed : String → Machine → Deed}
    {m m₁ m₂ : Machine} {out err : Sink} {status : Int} (hs : m.disk.Sound)
    (htargets : ∀ stream, (c.target stream).Fits m.disk m.cwd)
    (hdistinct : c.out.Distinct c.err m.disk m.cwd)
    (hl : Builtin.deeds.lookup c.name = some deed)
    (ho : Sink.ofTarget .out c.out (m.note (.builtin c.name c.args)) = .ok (out, m₁))
    (he : Sink.ofTarget .err c.err m₁ = .ok (err, m₂))
    (hst : (deed (Command.argText c.args) m₂).status? = some status) :
    Emitting { settings } m c
      ⟨m.cwd, c.target, (textsOn · (deed (Command.argText c.args) m₂).row)⟩ := by
  obtain ⟨hready, -⟩ :=
    sinks_fit (m := m.note (.builtin c.name c.args)) hs htargets hdistinct ho he
  obtain ⟨s, hact, hemits⟩ := deed_emits hready (Builtin.deeds_mild hl _ m₂) hst
  rcases Builtin.handlers_deeds c.name with ⟨-, hnone⟩ | ⟨handler, deed', hh, hl', hdoes⟩
  · simp [hl] at hnone
  · cases hl.symm.trans hl'
    exact .builtin hh ho he ((hdoes _ _).trans hact) hemits

/-! ## Programs -/

theorem lookUp_cwd (m : Machine) (name : String) (given? : Option String) :
    (m.lookUp name given?).2.cwd = m.cwd := by
  unfold Machine.lookUp
  split <;> rfl

theorem runProgram_delivers {c : Command} {m m₁ : Machine} {file path : String}
    {finished : Finished} (hs : m.disk.Sound)
    (hf : ∀ stream, (c.target stream).Fits m.disk m.cwd)
    (hl : m.lookUp c.name none = (some file, m₁))
    (hstart : m₁.start file (c.name :: c.args) = .ok (path, finished))
    (hd : finished.disk = m.disk) :
    ∃ m', runProgram c m = (.ok finished.status, m') ∧
      Delivered m m' ⟨m.cwd, c.target, capturedTexts finished.out finished.err⟩ := by
  let m₂ := { m₁ with disk := finished.disk }.note (.ended file finished.status)
  have hcwd₂ : m₂.cwd = m.cwd := by
    have hlcwd := lookUp_cwd m c.name none
    rw [hl] at hlcwd
    exact hlcwd
  have hconsole₂ (stream : Stream) : m₂.console stream = m.console stream := by
    have hagrees := Builtin.lookUp_agrees m c.name none
    rw [hl] at hagrees
    exact hagrees.console stream
  have hdisk₂ : m₂.disk = m.disk := hd
  have hfit (stream : Stream) : (c.target stream).Fits m₂.disk m₂.cwd := by
    rw [hdisk₂, hcwd₂]
    exact hf stream
  obtain ⟨m₃, hroute₃, hcwd₃, hpres₃, hcont₃, hcons₃⟩ :=
    route_delivers (hdisk₂ ▸ hs) (hfit .out) .out (capturedText finished.out)
  have hfit₃ : (c.target .err).Fits m₃.disk m₃.cwd := by
    rw [hcwd₃]
    exact fits_preserves (hfit .err) hpres₃
  obtain ⟨m₄, hroute₄, hcwd₄, hpres₄, hcont₄, hcons₄⟩ :=
    route_delivers hpres₃.sound hfit₃ .err (capturedText finished.err)
  refine ⟨m₄, ?_, hdisk₂ ▸ hpres₃.trans hpres₄, fun dir path => ?_, fun stream => ?_⟩
  · refine runProgram_ok (r := .ok finished.status) ?_ rfl
    rw [Run.program_started c.out c.err hl hstart]
    exact (bind_ok hroute₃).trans (bind_ok hroute₄)
  · rw [hcont₄, hcont₃, hcwd₃, hcwd₂, Target.store_names hpres₃.names, hdisk₂, Emission.store]
    simp only [capturedTexts, String.join_cons, String.join_nil, String.append_empty]
  · cases stream with
    | out =>
      rw [hcons₄, if_neg (by rintro ⟨⟨⟩, -⟩), hcons₃, hconsole₂,
        Emission.write_shown (capturedText finished.out) rfl]
      simp only [true_and]
    | err =>
      have hcons₂ : m₃.console .err = m.console .err := by
        rw [hcons₃, if_neg (by rintro ⟨⟨⟩, -⟩), hconsole₂]
      rw [hcons₄, hcons₂, Emission.write_shown (capturedText finished.err) rfl]
      simp only [true_and]

/-! ## Commands -/

theorem dispatch_delivers {sh : Session} {m : Machine} {c : Command} {e : Emission}
    (hs : m.disk.Sound) (hf : e.Fits m.disk) (he : sh.Emitting m c e) :
    ∃ status m', sh.dispatch c m = (.ok status, m') ∧ Delivered m m' e := by
  cases he with
  | builtin hl ho he hrun hemits =>
    obtain ⟨m', hm', hd⟩ :=
      runBuiltin_delivers (m := m.note (.builtin c.name c.args)) hs hf ho he hrun hemits
    exact ⟨_, m', (dispatch_builtin sh m hl).trans hm', hd.preserves, hd.contents, hd.consoles⟩
  | program hl hlook hstart hdisk =>
    obtain ⟨m', hm', hd⟩ :=
      runProgram_delivers (m := m.note (.external c.name c.args)) hs hf.targets hlook hstart hdisk
    exact ⟨_, m', (dispatch_program sh m hl).trans hm', hd.preserves, hd.contents, hd.consoles⟩

end Session

end CommandShell
