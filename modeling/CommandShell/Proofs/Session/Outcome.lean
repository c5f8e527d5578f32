import CommandShell.Proofs.File.Fresh
import CommandShell.Proofs.Session.Visit

/-!
# What a builtin leaves behind

The status and the machine that a builtin comes to, by its deed, when both of its targets could be
opened: what it says is in its place, nothing else is changed, and both sinks are closed.
-/

open CommandShell.Effect CommandShell.Scene

namespace CommandShell

namespace Scene

def Fresh (s : Scene) : Prop := ∀ stream, (s.sink stream).Fresh s.machine.disk

def Resting (s : Scene) : Prop := ∀ stream, (s.sink stream).Resting

variable {s : Scene}

theorem fresh_rests (hf : s.Fresh) : s.Resting := fun stream => Sink.fresh_resting (hf stream)

theorem resting_flushBoth (hr : s.Resting) : Call.flushBoth s = (.ok (), s) :=
  onBoth_ok (Sink.resting_flush (hr .out) s.machine) (Sink.resting_flush (hr .err) s.machine)

theorem resting_closeBoth (hr : s.Resting) :
    ∃ s', onBoth Sink.close s = (.ok (), s') ∧ s'.machine = s.machine ∧
      ∀ m, [s'.out, s'.err].foldl (fun m s => s.abandon m) m = m := by
  obtain ⟨out, ho, hout⟩ := Sink.resting_close (hr .out) s.machine
  obtain ⟨err, he, herr⟩ := Sink.resting_close (hr .err) s.machine
  refine ⟨_, onBoth_ok ho he, rfl, fun m => ?_⟩
  simp only [List.foldl_cons, List.foldl_nil, hout, herr]

theorem fresh_delivers (hf : s.Fresh) (stream : Stream)
    (htakes : (s.sink stream).writeError? s.machine.disk = none) {text : String} (ht : text ≠ "") :
    ∃ s₁ s₂, Act.write stream text s = (.ok (), s₁) ∧ Call.flushBoth s₁ = (.ok (), s₂) ∧
      s₂.machine = (s.sink stream).deliver text s.machine ∧ s₂.Resting := by
  obtain ⟨n, sink, m, sink', hw, hflush, hrest⟩ := Sink.fresh_delivers (hf stream) htakes ht
  have hothers := fresh_rests hf
  cases stream with
  | out =>
    refine ⟨_, ⟨_, sink', s.err⟩, Act.write_ok hw, ?_, rfl, ?_⟩
    · exact onBoth_ok (s := ⟨m, sink, s.err⟩) hflush (Sink.resting_flush (hothers .err) _)
    · rintro (_ | _)
      · exact hrest
      · exact hothers .err
  | err =>
    refine ⟨_, ⟨_, s.out, sink'⟩, Act.write_ok hw, ?_, rfl, ?_⟩
    · exact onBoth_ok (s := ⟨m, s.out, sink⟩) (Sink.resting_flush (hothers .out) _) hflush
    · rintro (_ | _)
      · exact hothers .out
      · exact hrest

end Scene

theorem Handler.Does.call_acts {handler : Handler} {deed : String → Machine → Deed}
    (hd : handler.Does deed) {c : Command} {s : Scene} {d : Deed}
    (h : deed (Command.argText c.args) s.machine = d) :
    handler c.errand s = d.act s := by
  rw [← h]
  exact hd _ s

namespace Session

section Opened

variable {c : Command} {handler : Handler} {m m₁ m₂ : Machine} {out err : Sink}
  (ho : Sink.ofTarget .out c.out m = .ok (out, m₁))
  (he : Sink.ofTarget .err c.err m₁ = .ok (err, m₂))

include ho he

theorem opened_fresh : Scene.Fresh ⟨m₂, out, err⟩ := by
  rintro (_ | _)
  · exact Sink.fresh_ofTarget (Sink.ofTarget_fresh ho) he
  · exact Sink.ofTarget_fresh he

theorem runBuiltin_rests {r : Except Escape Int} {c' : Call} {s : Scene}
    (hrun : (c.call handler).run ⟨m₂, out, err⟩ = (r, c', s)) (hrest : s.Resting) :
    runBuiltin c handler m = (r, s.machine) := by
  obtain ⟨s', hclose, hmachine, hleft⟩ := resting_closeBoth hrest
  have hvisit : visit c handler m = between (c.call handler) ⟨m₂, out, err⟩ := visit_opened ho he
  rw [runBuiltin, hvisit, between_eq hrun hclose, hleft, hmachine]
  rfl

variable {deed : String → Machine → Deed} (hd : handler.Does deed)

include hd

theorem runBuiltin_tells {stream : Stream} {text : String} {status : Int} {m' : Machine}
    (hdeed : deed (Command.argText c.args) m₂ = .tells stream text status m')
    (hmild : (deed (Command.argText c.args) m₂).IsMild m₂)
    (htakes : (Scene.sink ⟨m₂, out, err⟩ stream).writeError? m₂.disk = none) :
    runBuiltin c handler m =
      (.ok status, (Scene.sink ⟨m₂, out, err⟩ stream).deliver text m') := by
  have hrun := hd.call_acts (s := ⟨m₂, out, err⟩) hdeed
  rw [hdeed] at hmild
  obtain ⟨hagrees, ht⟩ := hmild
  have hfresh : Scene.Fresh ⟨m', out, err⟩ := by
    intro other
    rw [hagrees.disk]
    exact opened_fresh ho he other
  have htakes' : (Scene.sink ⟨m', out, err⟩ stream).writeError? m'.disk = none := by
    rw [hagrees.disk]
    exact htakes
  obtain ⟨s₁, s₂, hw, hflush, hmachine, hrest⟩ := fresh_delivers hfresh stream htakes' ht
  rw [Deed.tells_act, bind_ok hw] at hrun
  rw [runBuiltin_rests ho he (Call.run_flushed rfl (Call.settle_ok hrun) hflush) hrest, hmachine]
  cases stream <;> rfl

theorem runBuiltin_silent {status : Int} {m' : Machine}
    (hdeed : deed (Command.argText c.args) m₂ = .silent status m') :
    runBuiltin c handler m = (.ok status, m') := by
  have hrun := hd.call_acts (s := ⟨m₂, out, err⟩) hdeed
  have hrest : Scene.Resting ⟨m', out, err⟩ := by
    have hopened := fresh_rests (opened_fresh ho he)
    rintro (_ | _)
    · exact hopened .out
    · exact hopened .err
  exact runBuiltin_rests ho he
    (Call.run_flushed rfl (Call.settle_ok hrun) (resting_flushBoth hrest)) hrest

theorem runBuiltin_fails {f : Fault} (hdeed : deed (Command.argText c.args) m₂ = .fails f)
    (htakes : err.writeError? m₂.disk = none) :
    runBuiltin c handler m =
      (.ok 1, err.deliver ((c.call handler).reportText f) m₂) := by
  have hrun := hd.call_acts (s := ⟨m₂, out, err⟩) hdeed
  obtain ⟨s₁, s₂, hw, hflush, hmachine, hrest⟩ :=
    fresh_delivers (opened_fresh ho he) .err htakes (Call.reportText_ne (c.call handler) f)
  have hsettle := Call.settle_error (c := c.call handler) hrun
  rw [Call.report_eq, bind_ok hw] at hsettle
  rw [runBuiltin_rests ho he (Call.run_flushed rfl hsettle hflush) hrest, hmachine]
  rfl

theorem runBuiltin_leaves {status : ExitStatus}
    (hdeed : deed (Command.argText c.args) m₂ = .leaves status) :
    runBuiltin c handler m = (.error (.exit status), m₂) := by
  have hrun := hd.call_acts (s := ⟨m₂, out, err⟩) hdeed
  have hrest := fresh_rests (opened_fresh ho he)
  exact runBuiltin_rests ho he
    (Call.run_flushed rfl (Call.settle_error hrun) (resting_flushBoth hrest)) hrest

end Opened

end Session

end CommandShell
