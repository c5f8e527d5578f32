import CommandShell.Proofs.Command.Route
import CommandShell.Proofs.Session.Visit

/-!
# The commands that break a session

A command breaks the session when a target has U+0000 in its path, or names a device that fails
while something has to be written there.
-/

open CommandShell.Effect CommandShell.Scene

namespace CommandShell

namespace Session

/-- The visit of a builtin with this deed ends in a fault. -/
inductive Derails (deed : String → Machine → Deed) (m : Machine) (c : Command) : Fault → Prop
  | outName : c.out.HasNullByte → Derails deed m c .nullByte
  | errName {out : Sink} {m' : Machine} :
      Sink.ofTarget .out c.out m = .ok (out, m') → c.err.HasNullByte → Derails deed m c .nullByte
  | jam {out err : Sink} {m' m'' : Machine} {e : Errno} :
      Sink.ofTarget .out c.out m = .ok (out, m') → Sink.ofTarget .err c.err m' = .ok (err, m'') →
      (deed (Command.argText c.args) m'').jam? (m.writeError? c.out) (m'.writeError? c.err) =
        some e →
      Derails deed m c (.system e none)

/-- The command ends in a fault that the shell does not report. -/
inductive Breaks (m : Machine) (c : Command) : Fault → Prop
  | builtin {deed : String → Machine → Deed} {f : Fault} :
      Builtin.deeds.lookup c.name = some deed →
      Derails deed (m.note (.builtin c.name c.args)) c f → Breaks m c f
  | program {file : String} {m' : Machine} {started : String × Finished} :
      Builtin.deeds.lookup c.name = none →
      (m.note (.external c.name c.args)).lookUp c.name none = (some file, m') →
      m'.start file (c.name :: c.args) = .ok started →
      c.out.HasNullByte ∨ c.err.HasNullByte → Breaks m c .nullByte

/-- The command is `exit 0`, and its targets can be opened. -/
def Leaves (m : Machine) (c : Command) : Prop :=
  c.name = "exit" ∧ Command.argText c.args = "0" ∧ ∃ out m' err m'',
    Sink.ofTarget .out c.out (m.note (.builtin c.name c.args)) = .ok (out, m') ∧
      Sink.ofTarget .err c.err m' = .ok (err, m'')

/-! ## Builtins -/

section Visit

variable {c : Command} {handler : Handler} {deed : String → Machine → Deed} {m : Machine}

theorem ofTarget_null {stream : Stream} {t : Target} (h : t.HasNullByte) :
    Sink.ofTarget stream t m = .error .nullByte := by
  obtain ⟨path, hp, hn⟩ := h
  simp [Sink.ofTarget, hp, Sink.toFile, hn]

theorem turnAway_opened {opened : List Sink} {stream : Stream} {t : Target} {f : Fault}
    (m' : Machine) (ho : opened = [] ∨ ∃ out, opened = [out] ∧ out.Calm m'.disk)
    (h : Sink.ofTarget stream t m = .error f) :
    (t.HasNullByte ∧ f = .nullByte ∧ (turnAway opened m' f).result = .error (.fault .nullByte)) ∨
      (turnAway opened m' f).result = .ok 1 := by
  rcases Sink.ofTarget_error h with ⟨path, hp, hn, rfl⟩ | ⟨path, reason, -, -, rfl⟩
  · exact Or.inl ⟨⟨path, hp, hn⟩, rfl, rfl⟩
  · refine Or.inr ?_
    rcases ho with rfl | ⟨out, rfl, hc⟩
    · rfl
    · obtain ⟨out', m'', hclose, -⟩ := Sink.calm_close hc
      simp [turnAway, hclose, turnAway.reported]

variable (hd : handler.Does deed) (hmild : ∀ args m, (deed args m).IsMild m)

include hd hmild

theorem visit_deed {out err : Sink} {m' m'' : Machine}
    (ho : Sink.ofTarget .out c.out m = .ok (out, m'))
    (he : Sink.ofTarget .err c.err m' = .ok (err, m'')) :
    match (deed (Command.argText c.args) m'').jam? (m.writeError? c.out) (m'.writeError? c.err) with
    | some e => (visit c handler m).result = .error (.fault (.system e none))
    | none => (deed (Command.argText c.args) m'').Ends (visit c handler m).result := by
  obtain ⟨hco, -⟩ := Sink.ofTarget_calm ho
  obtain ⟨hce, hg⟩ := Sink.ofTarget_calm he
  have hc : Scene.Calm ⟨m'', out, err⟩ := by
    rintro (_ | _)
    · exact Sink.calm_grows hco hg
    · exact hce
  rw [visit_opened ho he, ← Sink.ofTarget_writeError ho, ← Sink.writeError?_grows hco hg,
    ← Sink.ofTarget_writeError he]
  exact between_deed (c := c.call handler) rfl hd hc
    (hmild _ _)

theorem visit_ends :
    (∃ status, (visit c handler m).result = .ok status) ∨
      (∃ out m' err m'', Sink.ofTarget .out c.out m = .ok (out, m') ∧
        Sink.ofTarget .err c.err m' = .ok (err, m'') ∧
        (deed (Command.argText c.args) m'').Ends (visit c handler m).result ∧
        ∃ status, (visit c handler m).result = .error (.exit status)) ∨
      ∃ f, (visit c handler m).result = .error (.fault f) ∧ Derails deed m c f := by
  cases ho : Sink.ofTarget .out c.out m with
  | error f =>
    rw [visit_unopened ho]
    rcases turnAway_opened m (Or.inl rfl) ho with ⟨hn, -, hr⟩ | hr
    · exact Or.inr (Or.inr ⟨_, hr, .outName hn⟩)
    · exact Or.inl ⟨1, hr⟩
  | ok opened =>
    obtain ⟨out, m'⟩ := opened
    cases he : Sink.ofTarget .err c.err m' with
    | error f =>
      rw [visit_half ho he]
      have hco := (Sink.ofTarget_calm ho).1
      -- The sink of the output is open and empty, so closing it cannot fail.
      rcases turnAway_opened m' (Or.inr ⟨out, rfl, hco⟩) he with ⟨hn, -, hr⟩ | hr
      · exact Or.inr (Or.inr ⟨_, hr, .errName ho hn⟩)
      · exact Or.inl ⟨1, hr⟩
    | ok opened =>
      obtain ⟨err, m''⟩ := opened
      have hends := visit_deed hd hmild ho he
      split at hends
      · next e hj => exact Or.inr (Or.inr ⟨_, hends, .jam ho he hj⟩)
      · cases hdeed : deed (Command.argText c.args) m'' with
        | leaves status =>
          have hr := hends
          rw [hdeed] at hr
          exact Or.inr (Or.inl ⟨out, m', err, m'', rfl, he, hends, status, hr⟩)
        | _ =>
          rw [hdeed] at hends
          exact Or.inl hends

theorem visit_derails {f : Fault} (h : Derails deed m c f) :
    (visit c handler m).result = .error (.fault f) := by
  cases h with
  | outName hn =>
    rw [visit_unopened (ofTarget_null hn)]
    rfl
  | errName ho hn =>
    rw [visit_half ho (ofTarget_null hn)]
    rfl
  | jam ho he hj =>
    have hends := visit_deed hd hmild ho he
    rwa [hj] at hends

end Visit

/-! ## Programs -/

section Program

variable {c : Command} {m m' : Machine} {file : String}

theorem start_error {argv : List String} {f : Fault} (h : m.start file argv = .error f) :
    ∃ reason, f = .start reason := by
  unfold Machine.start at h
  split at h
  · cases h
    exact ⟨_, rfl⟩
  · split at h
    · cases h
    · cases h
      exact ⟨_, rfl⟩

theorem routes_end (out err : Target) (outText errText : String) (status : Int) (m : Machine) :
    let routes : Run Int := do
      Run.route .out out outText
      Run.route .err err errText
      return status
    ((out.HasNullByte ∨ err.HasNullByte) ∧ (routes m).1 = .error (.fault .nullByte)) ∨
      (¬ (out.HasNullByte ∨ err.HasNullByte) ∧ (routes m).1 = .ok status) := by
  intro routes
  by_cases ho : out.HasNullByte
  · refine Or.inl ⟨Or.inl ho, ?_⟩
    simp only [routes]
    rw [bind_error (Run.route_null ho)]
  · obtain ⟨m1, h1⟩ := Run.route_ok ho .out outText m
    simp only [routes]
    rw [bind_ok h1]
    by_cases he : err.HasNullByte
    · refine Or.inl ⟨Or.inr he, ?_⟩
      rw [bind_error (Run.route_null he)]
    · obtain ⟨m2, h2⟩ := Run.route_ok he .err errText m1
      refine Or.inr ⟨by simp [ho, he], ?_⟩
      rw [bind_ok h2]
      rfl

theorem runProgram_breaks {started : String × Finished}
    (hl : m.lookUp c.name none = (some file, m'))
    (hs : m'.start file (c.name :: c.args) = .ok started)
    (hn : c.out.HasNullByte ∨ c.err.HasNullByte) :
    (runProgram c m).1 = .error (.fault .nullByte) := by
  rcases hrun : Run.program c.name c.args c.out c.err none m with ⟨r, m''⟩
  suffices hr : r = .error (.fault .nullByte) by rw [runProgram_null hrun hr]
  rw [Run.program_started c.out c.err hl hs] at hrun
  rcases routes_end c.out c.err (capturedText started.2.out) (capturedText started.2.err)
    started.2.status ({ m' with disk := started.2.disk }.note (.ended file started.2.status)) with
    ⟨-, hr⟩ | ⟨ho, -⟩
  · rwa [hrun] at hr
  · exact absurd hn ho

theorem runProgram_ends (c : Command) (m : Machine) :
    (∃ status, (runProgram c m).1 = .ok status) ∨
      ∃ file m' started, m.lookUp c.name none = (some file, m') ∧
        m'.start file (c.name :: c.args) = .ok started ∧
        (c.out.HasNullByte ∨ c.err.HasNullByte) := by
  rcases hl : m.lookUp c.name none with ⟨_ | file, m'⟩
  · exact Or.inl ⟨127, by rw [runProgram_missing (Run.program_missing c.out c.err hl) rfl]⟩
  · cases hs : m'.start file (c.name :: c.args) with
    | error f =>
      obtain ⟨reason, rfl⟩ := start_error hs
      refine Or.inl ⟨126, ?_⟩
      rw [runProgram_unstarted (Run.program_unstarted c.out c.err hl hs) rfl]
    | ok started =>
      have hp := Run.program_started c.out c.err hl hs
      rcases routes_end c.out c.err (capturedText started.2.out) (capturedText started.2.err)
        started.2.status
        ({ m' with disk := started.2.disk }.note (.ended file started.2.status)) with
        ⟨hn, -⟩ | ⟨-, hr⟩
      · exact Or.inr ⟨file, m', started, rfl, hs, hn⟩
      · refine Or.inl ⟨started.2.status, ?_⟩
        rcases hrun : Run.program c.name c.args c.out c.err none m with ⟨r, m''⟩
        rw [← hp, hrun] at hr
        rw [runProgram_ok hrun hr]

end Program

/-! ## Commands -/

section Dispatch

variable (settings : Settings) (c : Command) (m : Machine)

theorem dispatch_ends :
    (∃ status, (({ settings } : Session).dispatch c m).1 = .ok status) ∨
      ((({ settings } : Session).dispatch c m).1 = .error (.exit (.code 0)) ∧ Leaves m c) ∨
      ∃ f, (({ settings } : Session).dispatch c m).1 = .error (.fault f) ∧ Breaks m c f := by
  rcases Builtin.handlers_deeds c.name with ⟨hh, hl⟩ | ⟨handler, deed, hh, hl, hd⟩
  · rw [dispatch_program { settings } m hh]
    rcases runProgram_ends c (m.note (.external c.name c.args)) with hok |
      ⟨file, m', started, hlook, hs, hn⟩
    · exact Or.inl hok
    · exact Or.inr (Or.inr ⟨_, runProgram_breaks hlook hs hn, .program hl hlook hs hn⟩)
  · rw [dispatch_builtin { settings } m hh, runBuiltin_fst]
    rcases visit_ends (c := c) (m := m.note (.builtin c.name c.args)) hd (Builtin.deeds_mild hl)
      with hok | ⟨out, m', err, m'', ho, he, hends, status, hr⟩ | ⟨f, hr, hf⟩
    · exact Or.inl hok
    · refine Or.inr (Or.inl ?_)
      cases hdeed : deed (Command.argText c.args) m'' with
      | leaves status' =>
        obtain ⟨hname, hargs, rfl⟩ := (Builtin.deeds_leaves hl _ _ _).mp hdeed
        rw [hdeed] at hends
        exact ⟨hends, hname, hargs, out, m', err, m'', ho, he⟩
      | _ =>
        rw [hdeed] at hends
        obtain ⟨n, hn⟩ := hends
        rw [hn] at hr
        cases hr
    · exact Or.inr (Or.inr ⟨f, hr, .builtin hl hf⟩)

variable {c m}

theorem dispatch_breaks {f : Fault} (h : Breaks m c f) :
    (({ settings } : Session).dispatch c m).1 = .error (.fault f) := by
  rcases Builtin.handlers_deeds c.name with ⟨hh, hl⟩ | ⟨handler, deed, hh, hl, hd⟩
  · cases h with
    | builtin hl' => simp [hl] at hl'
    | program _ hlook hs hn =>
      rw [dispatch_program { settings } m hh]
      exact runProgram_breaks hlook hs hn
  · cases h with
    | builtin hl' hf =>
      have hdeed := Option.some.inj (hl'.symm.trans hl)
      rw [hdeed] at hf
      rw [dispatch_builtin { settings } m hh]
      exact visit_derails hd (Builtin.deeds_mild hl) hf
    | program hl' => simp [hl] at hl'

theorem dispatch_leaves (h : Leaves m c) :
    (({ settings } : Session).dispatch c m).1 = .error (.exit (.code 0)) := by
  obtain ⟨hname, hargs, out, m', err, m'', ho, he⟩ := h
  have hh : Builtin.handlers.lookup c.name = some Builtin.exit := by rw [hname]; rfl
  have hl : Builtin.deeds.lookup c.name = some Builtin.exitDeed := by rw [hname]; rfl
  have hdeed : Builtin.exitDeed (Command.argText c.args) m'' = .leaves (.code 0) :=
    (Builtin.deeds_leaves hl _ _ _).mpr ⟨hname, hargs, rfl⟩
  rw [dispatch_builtin { settings } m hh, runBuiltin_fst]
  have hends := visit_deed Builtin.exit_does (Builtin.deeds_mild hl) ho he
  rwa [hdeed] at hends

end Dispatch

end Session

end CommandShell
