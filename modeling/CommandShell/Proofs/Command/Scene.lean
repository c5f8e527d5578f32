import CommandShell.Proofs.Effect
import CommandShell.Proofs.File.Footing
import CommandShell.Handler

/-!
# The sinks of a call

A step of a handler touches one of the two sinks and the machine. Opening leaves both sinks calm;
writes that a stuck sink still holds back make a flush fail.
-/

open CommandShell.Effect

namespace CommandShell

namespace Scene

def replace (s : Scene) (stream : Stream) (sink : Sink) (machine : Machine) : Scene :=
  match stream with
  | .out => { s with machine, out := sink }
  | .err => { s with machine, err := sink }

@[simp] theorem replace_machine (s : Scene) (stream : Stream) (sink : Sink) (m : Machine) :
    (s.replace stream sink m).machine = m := by
  cases stream <;> rfl

@[simp] theorem replace_sink (s : Scene) (stream : Stream) (sink : Sink) (m : Machine) :
    (s.replace stream sink m).sink stream = sink := by
  cases stream <;> rfl

theorem replace_sink_ne (s : Scene) {stream other : Stream} (h : other ≠ stream) (sink : Sink)
    (m : Machine) : (s.replace stream sink m).sink other = s.sink other := by
  cases stream <;> cases other <;> first | rfl | exact absurd rfl h

theorem replace_same (s : Scene) (stream : Stream) :
    s.replace stream (s.sink stream) s.machine = s := by
  cases stream <;> rfl

theorem onSink_apply {α : Type} (stream : Stream) {step : Sink.Step α} {s : Scene}
    {r : Except Fault α} {sink : Sink} {m : Machine}
    (h : step (s.sink stream) s.machine = (r, sink, m)) :
    onSink stream step s = (r.mapError .fault, s.replace stream sink m) := by
  rw [onSink, h]
  cases stream <;> rfl

end Scene

/-! ## Single steps -/

namespace Act

variable {s : Scene} {stream : Stream} {text : String} {sink : Sink} {m : Machine}

theorem write_ok {n : Nat} (h : Sink.write text (s.sink stream) s.machine = (.ok n, sink, m)) :
    write stream text s = (.ok (), s.replace stream sink m) :=
  bind_ok (Scene.onSink_apply stream h)

theorem write_error {f : Fault}
    (h : Sink.write text (s.sink stream) s.machine = (.error f, sink, m)) :
    write stream text s = (.error (.fault f), s.replace stream sink m) :=
  bind_error (Scene.onSink_apply stream h)

end Act

/-! ## One step on both sinks -/

namespace Scene

def onBoth (step : Sink.Step Unit) : Act Unit := do
  onSink .out step
  onSink .err step

variable {s : Scene} {step : Sink.Step Unit} {out err : Sink} {m m' : Machine}

theorem onBoth_ok {r : Except Fault Unit} (ho : step s.out s.machine = (.ok (), out, m))
    (he : step s.err m = (r, err, m')) :
    onBoth step s = (r.mapError .fault, ⟨m', out, err⟩) := by
  rw [onBoth, bind_ok (onSink_apply .out ho)]
  exact onSink_apply .err (s := ⟨m, out, s.err⟩) he

theorem onBoth_error {f : Fault} (ho : step s.out s.machine = (.error f, out, m)) :
    onBoth step s = (.error (.fault f), ⟨m, out, s.err⟩) :=
  bind_error (onSink_apply .out ho)

end Scene

namespace Scene

def Calm (s : Scene) : Prop := ∀ stream, (s.sink stream).Calm s.machine.disk

/-- A flush goes through or fails with the error. -/
def Standing (s : Scene) (e : Errno) : Prop :=
  ∀ stream, (s.sink stream).Calm s.machine.disk ∨ (s.sink stream).Busy s.machine.disk e

/-- A flush will fail with the error. -/
def Pending (s : Scene) (e : Errno) : Prop :=
  s.Standing e ∧ ∃ stream, (s.sink stream).Busy s.machine.disk e

variable {s : Scene} {e : Errno}

theorem calm_replace (hc : s.Calm) {stream : Stream} {sink : Sink} {m : Machine}
    (hs : sink.Calm m.disk) (hg : s.machine.disk.Grows m.disk) :
    (s.replace stream sink m).Calm := by
  intro other
  by_cases ho : other = stream
  · subst ho
    simpa using hs
  · rw [replace_sink_ne s ho, replace_machine]
    exact Sink.calm_grows (hc other) hg

theorem standing_replace (hs : s.Standing e) {stream : Stream} {sink : Sink} {m : Machine}
    (hn : sink.Calm m.disk ∨ sink.Busy m.disk e) (hg : s.machine.disk.Grows m.disk) :
    (s.replace stream sink m).Standing e := by
  intro other
  by_cases ho : other = stream
  · subst ho
    simpa using hn
  · rw [replace_sink_ne s ho, replace_machine]
    exact (hs other).imp (Sink.calm_grows · hg) (Sink.busy_grows · hg)

theorem pending_replace (hc : s.Calm) {stream : Stream} {sink : Sink}
    (hb : sink.Busy s.machine.disk e) : (s.replace stream sink s.machine).Pending e := by
  have hs : s.Standing e := fun other => Or.inl (hc other)
  refine ⟨standing_replace hs (Or.inr hb) s.machine.disk.grows_refl, stream, ?_⟩
  rwa [replace_sink, replace_machine]

/-! ## Writing -/

theorem calm_write (hc : s.Calm) (stream : Stream) {text : String} (ht : text ≠ "") :
    ((s.sink stream).writeError? s.machine.disk = none ∧
        ∃ s', Act.write stream text s = (.ok (), s') ∧ s'.Calm) ∨
      ∃ e, (s.sink stream).writeError? s.machine.disk = some e ∧
        ((Utf8.encode text).length < Handle.chunkSize ∧
            (∃ s', Act.write stream text s = (.ok (), s') ∧ s'.Pending e) ∨
          ¬ (Utf8.encode text).length < Handle.chunkSize ∧
            Act.write stream text s = (.error (.fault (.system e none)), s)) := by
  rcases Sink.calm_write (hc stream) ht with ⟨hn, n, sink, m, hw, hs, hg⟩ |
    ⟨e, he, ⟨hlen, n, sink, hw, hb⟩ | ⟨hlen, hw⟩⟩
  · exact Or.inl ⟨hn, _, Act.write_ok hw, calm_replace hc hs hg⟩
  · exact Or.inr ⟨e, he, Or.inl ⟨hlen, _, Act.write_ok hw, pending_replace hc hb⟩⟩
  · refine Or.inr ⟨e, he, Or.inr ⟨hlen, ?_⟩⟩
    rw [Act.write_error hw, replace_same]

/-! ## Flushing and closing both sinks -/

theorem calm_flushBoth (hc : s.Calm) : ∃ s', Call.flushBoth s = (.ok (), s') ∧ s'.Calm := by
  obtain ⟨out, m, ho, hco, hg⟩ := Sink.calm_flush (hc .out)
  obtain ⟨err, m', he, hce, hg'⟩ := Sink.calm_flush (Sink.calm_grows (hc .err) hg)
  refine ⟨⟨m', out, err⟩, onBoth_ok ho he, ?_⟩
  rintro (_ | _)
  · exact Sink.calm_grows hco hg'
  · exact hce

theorem pending_flushBoth (hp : s.Pending e) :
    ∃ s', Call.flushBoth s = (.error (.fault (.system e none)), s') ∧ s'.Standing e := by
  obtain ⟨hs, busy⟩ := hp
  rcases hs .out with hc | hb
  · have herr : s.err.Busy s.machine.disk e := by
      obtain ⟨_ | _, hb⟩ := busy
      · exact absurd hb (Sink.calm_not_busy hc)
      · exact hb
    obtain ⟨out, m, ho, hco, hg⟩ := Sink.calm_flush hc
    obtain ⟨err, m', he, hse, hg'⟩ := Sink.busy_flush (Sink.busy_grows herr hg)
    refine ⟨⟨m', out, err⟩, onBoth_ok ho he, ?_⟩
    rintro (_ | _)
    · exact Or.inl (Sink.calm_grows hco hg')
    · exact hse
  · obtain ⟨out, m, ho, hso, hg⟩ := Sink.busy_flush hb
    refine ⟨⟨m, out, s.err⟩, onBoth_error ho, ?_⟩
    rintro (_ | _)
    · exact hso
    · exact (hs .err).imp (Sink.calm_grows · hg) (Sink.busy_grows · hg)

theorem calm_closeBoth (hc : s.Calm) : ∃ s', onBoth Sink.close s = (.ok (), s') := by
  obtain ⟨out, m, ho, hg⟩ := Sink.calm_close (hc .out)
  obtain ⟨err, m', he, -⟩ := Sink.calm_close (Sink.calm_grows (hc .err) hg)
  exact ⟨⟨m', out, err⟩, onBoth_ok ho he⟩

theorem standing_closeBoth (hs : s.Standing e) :
    ∃ s', onBoth Sink.close s = (.ok (), s') ∨
      onBoth Sink.close s = (.error (.fault (.system e none)), s') := by
  rcases hs .out with hc | hb
  · obtain ⟨out, m, ho, hg⟩ := Sink.calm_close hc
    rcases hs .err with hc' | hb'
    · obtain ⟨err, m', he, -⟩ := Sink.calm_close (Sink.calm_grows hc' hg)
      exact ⟨⟨m', out, err⟩, Or.inl (onBoth_ok ho he)⟩
    · obtain ⟨err, m', he, -⟩ := Sink.busy_close (Sink.busy_grows hb' hg)
      exact ⟨⟨m', out, err⟩, Or.inr (onBoth_ok ho he)⟩
  · obtain ⟨out, m, ho, -⟩ := Sink.busy_close hb
    exact ⟨_, Or.inr (onBoth_error ho)⟩

end Scene

end CommandShell
