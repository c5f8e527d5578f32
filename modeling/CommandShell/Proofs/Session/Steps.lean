import CommandShell.Proofs.File.Work
import CommandShell.Proofs.Session.Outcome

/-!
# A builtin, step by step

Once its sinks are open, all that a builtin does is steps on them: it writes what its deed says,
flushes, closes and lets go, whatever way it ends. So what every step keeps is kept by all of it,
and on the consoles there is what the steps have printed.
-/

open CommandShell.Effect CommandShell.Scene

namespace CommandShell

namespace Scene

/-- A row of steps on the sinks of a scene, with the texts that they print. -/
inductive Goes : Scene → List (Stream × String) → Scene → Prop
  | rests (s : Scene) : Goes s [] s
  | step {s s' : Scene} {stream : Stream} {texts : List String} {sink : Sink} {m : Machine}
      {rows : List (Stream × String)} :
      (s.sink stream).Does s.machine texts sink m → Goes (s.replace stream sink m) rows s' →
      Goes s (texts.map (stream, ·) ++ rows) s'

theorem goes_one {s : Scene} {stream : Stream} {texts : List String} {sink : Sink} {m : Machine}
    (h : (s.sink stream).Does s.machine texts sink m) :
    s.Goes (texts.map (stream, ·)) (s.replace stream sink m) := by
  simpa using Goes.step h (.rests _)

theorem Goes.trans {s s' s'' : Scene} {rows rows' : List (Stream × String)} (h : s.Goes rows s')
    (h' : s'.Goes rows' s'') : s.Goes (rows ++ rows') s'' := by
  induction h with
  | rests _ => exact h'
  | step hstep _ ih =>
    rw [List.append_assoc]
    exact .step hstep (ih h')

def GoesOn (s s' : Scene) : Prop := s.Goes [] s'

theorem GoesOn.trans ⦃s s' s'' : Scene⦄ (h : s.GoesOn s') (h' : s'.GoesOn s'') : s.GoesOn s'' :=
  Goes.trans h h'

def voice (s : Scene) (row : Stream × String) : List (Stream × String) :=
  ((s.sink row.1).spoken row.2).map (row.1, ·)

theorem goes_write (s : Scene) (stream : Stream) (text : String) :
    s.Goes (s.voice (stream, text)) (Act.write stream text s).2 := by
  have hdoes := (s.sink stream).does_write s.machine text
  have hgoes := goes_one hdoes
  rcases hrun : Sink.write text (s.sink stream) s.machine with ⟨r, sink, m⟩
  rw [hrun] at hgoes
  cases r with
  | ok n => rwa [Act.write_ok hrun]
  | error f => rwa [Act.write_error hrun]

theorem goesOn_onBoth {step : Sink.Step Unit}
    (hs : ∀ (s : Sink) (m : Machine), s.Does m [] (step s m).2.1 (step s m).2.2) :
    Keeps GoesOn (onBoth step) := by
  have hone (stream : Stream) : Keeps GoesOn (onSink stream step) := by
    intro s
    rw [onSink_apply stream rfl]
    exact goes_one (hs (s.sink stream) s.machine)
  exact keeps_bind GoesOn.trans (hone .out) fun _ => hone .err

theorem goesOn_abandon (s : Scene) :
    ∃ s', s.GoesOn s' ∧ s'.machine = [s.out, s.err].foldl (fun m s => s.abandon m) s.machine := by
  obtain ⟨out, hout⟩ := s.out.does_abandon s.machine
  obtain ⟨err, herr⟩ := s.err.does_abandon (s.out.abandon s.machine)
  have hfirst : s.GoesOn ⟨s.out.abandon s.machine, out, s.err⟩ := @goes_one s .out [] _ _ hout
  have hlast := @goes_one ⟨s.out.abandon s.machine, out, s.err⟩ .err [] _ _ herr
  exact ⟨_, hfirst.trans hlast, rfl⟩

end Scene

/-! ## What a deed says -/

/-- The error with which a text is refused at once, and does not wait for a flush. -/
def Scene.refusal? (s : Scene) (stream : Stream) (text : String) : Option Errno :=
  if (Utf8.encode text).length < Handle.chunkSize then none
  else (s.sink stream).writeError? s.machine.disk

theorem Scene.write_refused {s : Scene} (hc : s.Calm) (stream : Stream) {text : String}
    (ht : text ≠ "") :
    (s.refusal? stream text = none ∧ ∃ s', Act.write stream text s = (.ok (), s')) ∨
      ∃ e, s.refusal? stream text = some e ∧
        Act.write stream text s = (.error (.fault (.system e none)), s) := by
  unfold refusal?
  rcases calm_write hc stream ht with ⟨hn, s', hw, -⟩ | ⟨e, he, ⟨hlen, s', hw, -⟩ | ⟨hlen, hw⟩⟩
  · exact Or.inl ⟨by rw [hn, ite_self], s', hw⟩
  · exact Or.inl ⟨if_pos hlen, s', hw⟩
  · exact Or.inr ⟨e, by rw [if_neg hlen, he], hw⟩

namespace Deed

def machine (m : Machine) : Deed → Machine
  | tells _ _ _ m' | silent _ m' => m'
  | fails _ | leaves _ => m

theorem machine_agrees {d : Deed} {m : Machine} (hm : d.IsMild m) : m.Agrees (d.machine m) := by
  cases d with
  | tells _ _ _ m' => exact hm.1
  | silent _ m' => exact hm
  | _ => exact ⟨rfl, fun _ => rfl⟩

/-- What is written for a deed: its text, and a report of what went wrong. -/
def texts (c : Call) (s : Scene) : Deed → List (Stream × String)
  | tells stream text _ _ =>
    (stream, text) ::
      ((s.refusal? stream text).map fun e => (.err, c.reportText (.system e none))).toList
  | fails f => [(.err, c.reportText f)]
  | silent .. | leaves _ => []

end Deed

namespace Call

variable {c : Call} {handler : Handler} {deed : String → Machine → Deed} (hd : handler.Does deed)

theorem goes_report (c : Call) (f : Fault) (s : Scene) :
    s.Goes (s.voice (.err, c.reportText f)) (c.report (.fault f) s).2 := by
  have hwrite := goes_write s .err (c.reportText f)
  rw [report_eq, bind_apply]
  rcases hrun : Act.write .err (c.reportText f) s with ⟨r, s'⟩
  rw [hrun] at hwrite
  cases r <;> exact hwrite

include hd

theorem goes_settle {s : Scene} (hc : s.Calm)
    (hm : (deed c.argText s.machine).IsMild s.machine) :
    Goes { s with machine := (deed c.argText s.machine).machine s.machine }
      (((deed c.argText s.machine).texts c s).flatMap s.voice) (c.settle handler s).2 := by
  have hrun := hd c.toErrand s
  cases hdeed : deed c.argText s.machine with
  | tells stream text status m =>
    rw [hdeed] at hrun hm
    obtain ⟨hagrees, ht⟩ := hm
    have hc' : Scene.Calm { s with machine := m } := calm_agrees hc hagrees
    have hsink (other : Stream) : Scene.sink { s with machine := m } other = s.sink other := by
      cases other <;> rfl
    have hvoice : voice { s with machine := m } = s.voice := by
      funext row
      simp only [voice, hsink]
    have hwrite := goes_write { s with machine := m } stream text
    rw [hvoice] at hwrite
    have hrefusal : refusal? { s with machine := m } stream text = s.refusal? stream text := by
      unfold refusal?
      rw [hsink, hagrees.disk]
    rw [Deed.tells_act] at hrun
    rcases write_refused hc' stream ht with ⟨hn, s', hw⟩ | ⟨e, hr, hw⟩
    · rw [hrefusal] at hn
      rw [hw] at hwrite
      rw [bind_ok hw] at hrun
      rw [settle_ok hrun]
      simpa [Deed.texts, Deed.machine, hn] using hwrite
    · rw [hrefusal] at hr
      have hreport := goes_report c (.system e none) { s with machine := m }
      rw [hw] at hwrite
      rw [hvoice] at hreport
      rw [bind_error hw] at hrun
      rw [settle_error hrun]
      simpa [Deed.texts, Deed.machine, hr] using hwrite.trans hreport
  | silent status m =>
    rw [hdeed] at hrun
    rw [settle_ok hrun]
    exact .rests _
  | fails f =>
    rw [hdeed] at hrun
    rw [settle_error hrun]
    simpa [Deed.texts, Deed.machine] using goes_report c f s
  | leaves status =>
    rw [hdeed] at hrun
    rw [settle_error hrun]
    exact .rests s

end Call

/-! ## All of it -/

namespace Session

variable {c : Command} {handler : Handler} {deed : String → Machine → Deed} {m m₁ m₂ : Machine}
  {out err : Sink}

theorem runBuiltin_goes (hd : handler.Does deed)
    (hm : (deed (Command.argText c.args) m₂).IsMild m₂)
    (ho : Sink.ofTarget .out c.out m = .ok (out, m₁))
    (he : Sink.ofTarget .err c.err m₁ = .ok (err, m₂)) :
    ∃ s, Goes ⟨(deed (Command.argText c.args) m₂).machine m₂, out, err⟩
        (((deed (Command.argText c.args) m₂).texts (c.call handler) ⟨m₂, out, err⟩).flatMap
          (voice ⟨m₂, out, err⟩)) s ∧
      s.machine = (runBuiltin c handler m).2 := by
  have hcalm : Scene.Calm ⟨m₂, out, err⟩ := by
    rintro (_ | _)
    · exact Sink.calm_grows (Sink.ofTarget_calm ho).1 (Sink.ofTarget_calm he).2
    · exact (Sink.ofTarget_calm he).1
  have hvisit : visit c handler m = between (c.call handler) ⟨m₂, out, err⟩ := visit_opened ho he
  have hsettle := Call.goes_settle (c := c.call handler) hd hcalm hm
  rcases hs : (c.call handler).settle handler ⟨m₂, out, err⟩ with ⟨r, s₁⟩
  have hflush := goesOn_onBoth Sink.does_flush s₁
  rw [hs] at hsettle
  rcases hf : Call.flushBoth s₁ with ⟨q, s₂⟩
  rw [show onBoth Sink.flush s₁ = (q, s₂) from hf] at hflush
  have hrun : ∃ r' c', (c.call handler).run ⟨m₂, out, err⟩ = (r', c', s₂) := by
    cases q with
    | ok _ => exact ⟨_, _, Call.run_flushed rfl hs hf⟩
    | error e => exact ⟨_, _, Call.run_unflushed rfl hs hf⟩
  obtain ⟨r', c', hrun⟩ := hrun
  have hclose := goesOn_onBoth Sink.does_close s₂
  rcases hc : onBoth Sink.close s₂ with ⟨q', s₃⟩
  rw [hc] at hclose
  obtain ⟨s₄, habandon, hmachine⟩ := goesOn_abandon s₃
  refine ⟨s₄, ?_, ?_⟩
  · have hall := hsettle.trans (hflush.trans (hclose.trans habandon))
    rwa [List.append_nil] at hall
  · rw [hmachine, runBuiltin, hvisit, between_eq hrun hc]

def turned (f : Fault) (m : Machine) : Except Escape Int × Machine :=
  match f with
  | .redirection .. => (.ok 1, m.print .err (f.message ++ "\n"))
  | f => (.error (.fault f), m)

theorem runBuiltin_unopened {f : Fault} (ho : Sink.ofTarget .out c.out m = .error f) :
    runBuiltin c handler m = turned f m := by
  rw [runBuiltin, visit_unopened ho]
  cases f <;> rfl

theorem runBuiltin_half {f : Fault} (ho : Sink.ofTarget .out c.out m = .ok (out, m₁))
    (he : Sink.ofTarget .err c.err m₁ = .error f) : runBuiltin c handler m = turned f m₁ := by
  have hrest := Sink.fresh_resting (Sink.ofTarget_fresh ho)
  obtain ⟨out', hclose, hleft⟩ := Sink.resting_close hrest m₁
  rw [runBuiltin, visit_half ho he]
  cases f with
  | redirection path reason =>
    simp only [turnAway, hclose, turnAway.reported, List.foldl_cons, List.foldl_nil, hleft, turned]
  | _ => simp only [turnAway, List.foldl_cons, List.foldl_nil, Sink.resting_abandon hrest, turned]

end Session

end CommandShell
