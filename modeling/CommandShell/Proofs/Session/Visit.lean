import CommandShell.Proofs.Command.Deed
import CommandShell.Proofs.Command.Scene
import CommandShell.Session

/-!
# How a builtin ends

A builtin ends with a status or by leaving the shell, unless what it says comes to a device that
fails. A text that is refused there at once is still reported on the other stream; one that
waits, and a report that is refused itself, make a fault that nothing catches.
-/

open CommandShell.Effect CommandShell.Scene

namespace CommandShell

namespace Deed

/-- The error that ends the deed, when all writes to the two streams fail with these errors. -/
def jam? (out? err? : Option Errno) : Deed → Option Errno
  | tells .out text _ _ =>
    out?.bind fun e => if (Utf8.encode text).length < Handle.chunkSize then some e else err?
  | tells .err _ _ _ => err?
  | fails _ => err?
  | silent .. | leaves _ => none

def Ends : Deed → Except Escape Int → Prop
  | leaves status, r => r = .error (.exit status)
  | _, r => ∃ status, r = .ok status

end Deed

namespace Call

def reportText (c : Call) : Fault → String
  | .usage message => message ++ "\n"
  | f => s!"Error executing '{c.name}': {f.message}\n"

theorem report_eq (c : Call) (f : Fault) :
    c.report (.fault f) = (do Act.write .err (c.reportText f); return 1) := by
  cases f <;> rfl

theorem reportText_ne (c : Call) (f : Fault) : c.reportText f ≠ "" := by
  cases f <;> exact Builtin.append_ne_empty _ (by decide)

/-- A result and a scene that end in the error, now or when the sinks are flushed. -/
def Stalls (e : Errno) (r : Except Escape Int) (s : Scene) : Prop :=
  r = .error (.fault (.system e none)) ∧ s.Calm ∨ s.Pending e

/-- The run stalls if there is an error, and else it is a good one. -/
def Turns (error? : Option Errno) (good : Except Escape Int → Prop) (r : Except Escape Int)
    (s : Scene) : Prop :=
  match error? with
  | some e => Stalls e r s
  | none => good r ∧ s.Calm

variable {c : Call} {s : Scene}

theorem Turns.imp {error? : Option Errno} {good good' : Except Escape Int → Prop}
    {r : Except Escape Int} (h : Turns error? good r s) (himp : ∀ r, good r → good' r) :
    Turns error? good' r s := by
  cases error? with
  | some e => exact h
  | none => exact ⟨himp r h.1, h.2⟩

theorem report_calm (hc : s.Calm) (f : Fault) :
    ∃ r s', c.report (.fault f) s = (r, s') ∧
      Turns ((s.sink .err).writeError? s.machine.disk) (· = .ok 1) r s' := by
  rw [report_eq]
  rcases Scene.calm_write hc .err (c.reportText_ne f) with ⟨hn, s', hw, hc'⟩ |
    ⟨e, he, ⟨-, s', hw, hp⟩ | ⟨-, hw⟩⟩
  · rw [hn]
    exact ⟨.ok 1, s', bind_ok hw, rfl, hc'⟩
  · rw [he]
    exact ⟨.ok 1, s', bind_ok hw, Or.inr hp⟩
  · rw [he]
    exact ⟨_, s, bind_error hw, Or.inl ⟨rfl, hc⟩⟩

theorem settle_error {handler : Handler} {e : Escape} {s' : Scene}
    (h : handler c.toErrand s = (.error e, s')) : c.settle handler s = c.report e s' := by
  rw [settle, h]

theorem settle_ok {handler : Handler} {status : Int} {s' : Scene}
    (h : handler c.toErrand s = (.ok status, s')) : c.settle handler s = (.ok status, s') := by
  rw [settle, h]

theorem calm_agrees {m : Machine} (hc : s.Calm) (hm : s.machine.Agrees m) :
    Scene.Calm { s with machine := m } := by
  rintro (_ | _)
  · exact hm.disk.symm ▸ hc .out
  · exact hm.disk.symm ▸ hc .err

def Settles (c : Call) (handler : Handler) (d : Deed) (s : Scene) : Prop :=
  ∃ r s', c.settle handler s = (r, s') ∧
    Turns (d.jam? ((s.sink .out).writeError? s.machine.disk)
      ((s.sink .err).writeError? s.machine.disk)) d.Ends r s'

theorem settle_tells {handler : Handler} {stream : Stream} {text : String} {status : Int}
    {m : Machine} (hrun : handler c.toErrand s = (Deed.tells stream text status m).act s)
    (hc : s.Calm) (hagrees : s.machine.Agrees m) (ht : text ≠ "") :
    c.Settles handler (.tells stream text status m) s := by
  have hc1 : Scene.Calm { s with machine := m } := calm_agrees hc hagrees
  have hsink (st : Stream) : (Scene.sink { s with machine := m } st).writeError? m.disk =
      (s.sink st).writeError? s.machine.disk := by
    rw [hagrees.disk]
    cases st <;> rfl
  rw [Deed.tells_act] at hrun
  rcases Scene.calm_write hc1 stream ht with ⟨hn, s', hw, hc'⟩ |
    ⟨e, he, ⟨hlen, s', hw, hp⟩ | ⟨hlen, hw⟩⟩
  · rw [bind_ok hw] at hrun
    rw [hsink stream] at hn
    refine ⟨_, s', settle_ok hrun, ?_⟩
    cases stream <;> exact hn.symm ▸ ⟨⟨status, rfl⟩, hc'⟩
  · rw [bind_ok hw] at hrun
    rw [hsink stream] at he
    have hstalls : Stalls e (.ok status) s' := Or.inr hp
    refine ⟨_, s', settle_ok hrun, ?_⟩
    cases stream
    · simpa only [Turns, Deed.jam?, he, Option.bind_some, if_pos hlen] using hstalls
    · simpa only [Turns, Deed.jam?, he] using hstalls
  · -- The text is lost, and only the report can still be in the way.
    rw [bind_error hw] at hrun
    rw [hsink stream] at he
    obtain ⟨r, s', hreport, hr⟩ := report_calm (c := c) hc1 (.system e none)
    rw [hsink .err] at hr
    refine ⟨r, s', (settle_error hrun).trans hreport, ?_⟩
    have hjam : (Deed.tells stream text status m).jam?
        ((s.sink .out).writeError? s.machine.disk) ((s.sink .err).writeError? s.machine.disk) =
          (s.sink .err).writeError? s.machine.disk := by
      cases stream
      · rw [Deed.jam?, he, Option.bind_some, if_neg hlen]
      · rfl
    rw [hjam]
    exact hr.imp fun _ h => ⟨1, h⟩

theorem settle_deed {handler : Handler} {deed : String → Machine → Deed}
    (hd : handler.Does deed) (hc : s.Calm) (hm : (deed c.argText s.machine).IsMild s.machine) :
    c.Settles handler (deed c.argText s.machine) s := by
  have hrun := hd c.toErrand s
  cases hdeed : deed c.argText s.machine with
  | tells stream text status m =>
    rw [hdeed] at hrun hm
    exact settle_tells hrun hc hm.1 hm.2
  | silent status m =>
    rw [hdeed] at hrun hm
    exact ⟨_, _, settle_ok hrun, ⟨status, rfl⟩, calm_agrees hc hm⟩
  | fails f =>
    rw [hdeed] at hrun
    obtain ⟨r, s', hreport, hr⟩ := report_calm (c := c) hc f
    exact ⟨r, s', (settle_error hrun).trans hreport, hr.imp fun _ h => ⟨1, h⟩⟩
  | leaves status =>
    rw [hdeed] at hrun
    exact ⟨_, s, settle_error hrun, rfl, hc⟩

theorem run_flushed {handler : Handler} (hh : c.handler? = some handler) {r : Except Escape Int}
    {s' s'' : Scene} (hs : c.settle handler s = (r, s'))
    (hf : flushBoth s' = (.ok (), s'')) : c.run s = (r, c.after r, s'') := by
  simp [run, hh, hs, hf]

theorem run_unflushed {handler : Handler} (hh : c.handler? = some handler)
    {r : Except Escape Int} {e : Escape} {s' s'' : Scene} (hs : c.settle handler s = (r, s'))
    (hf : flushBoth s' = (.error e, s'')) : c.run s = (.error e, c.after r, s'') := by
  simp [run, hh, hs, hf]

end Call

namespace Session

/-! ## Between the sinks -/

theorem between_eq {c : Call} {s₀ s s' : Scene} {r : Except Escape Int} {c' : Call}
    {q : Except Escape Unit} (hr : c.run s₀ = (r, c', s)) (hc : onBoth Sink.close s = (q, s')) :
    between c s₀ = ⟨do q; r, [s'.out, s'.err], s'.machine⟩ := by
  have hc' : (do Act.close .out; Act.close .err : Act Unit) s = (q, s') := hc
  simp only [between, hr, hc']
  cases q <;> rfl

theorem between_closed {c : Call} {s s' s'' : Scene} {r : Except Escape Int} {c' : Call}
    (hr : c.run s = (r, c', s')) (hc : onBoth Sink.close s' = (.ok (), s'')) :
    (between c s).result = r := by
  rw [between_eq hr hc]
  rfl

theorem between_unclosed {c : Call} {s s' s'' : Scene} {r : Except Escape Int} {c' : Call}
    {e : Escape} (hr : c.run s = (r, c', s'))
    (hc : onBoth Sink.close s' = (.error e, s'')) : (between c s).result = .error e := by
  rw [between_eq hr hc]
  rfl

theorem between_deed {c : Call} {handler : Handler} {deed : String → Machine → Deed} {s : Scene}
    (hh : c.handler? = some handler) (hd : handler.Does deed) (hc : s.Calm)
    (hm : (deed c.argText s.machine).IsMild s.machine) :
    match (deed c.argText s.machine).jam? ((s.sink .out).writeError? s.machine.disk)
      ((s.sink .err).writeError? s.machine.disk) with
    | some e => (between c s).result = .error (.fault (.system e none))
    | none => (deed c.argText s.machine).Ends (between c s).result := by
  obtain ⟨r, s1, hs, hr⟩ := Call.settle_deed (c := c) hd hc hm
  have hcalm (hc1 : s1.Calm) : (between c s).result = r := by
    obtain ⟨s2, hf, hc2⟩ := calm_flushBoth hc1
    obtain ⟨s3, hclose⟩ := calm_closeBoth hc2
    exact between_closed (Call.run_flushed hh hs hf) hclose
  split
  · next e hj =>
    rw [hj] at hr
    rcases hr with ⟨rfl, hc1⟩ | hp
    · exact hcalm hc1
    · obtain ⟨s2, hf, hst⟩ := pending_flushBoth hp
      have hrun := Call.run_unflushed hh hs hf
      obtain ⟨s3, hclose | hclose⟩ := standing_closeBoth hst
      · exact between_closed hrun hclose
      · exact between_unclosed hrun hclose
  · next hj =>
    rw [hj] at hr
    exact (hcalm hr.2).symm ▸ hr.1

/-! ## Visits -/

section Visit

variable {c : Command} {handler : Handler} {m : Machine}

theorem visit_unopened {f : Fault} (h : Sink.ofTarget .out c.out m = .error f) :
    visit c handler m = turnAway [] m f := by
  rw [visit, h]

theorem visit_half {out : Sink} {m' : Machine} {f : Fault}
    (ho : Sink.ofTarget .out c.out m = .ok (out, m'))
    (h : Sink.ofTarget .err c.err m' = .error f) :
    visit c handler m = turnAway [out] m' f := by
  simp [visit, ho, h]

theorem visit_opened {out err : Sink} {m' m'' : Machine}
    (ho : Sink.ofTarget .out c.out m = .ok (out, m'))
    (he : Sink.ofTarget .err c.err m' = .ok (err, m'')) :
    visit c handler m =
      between (c.call handler) ⟨m'', out, err⟩ := by
  simp [visit, ho, he]

end Visit

theorem runBuiltin_fst (c : Command) (handler : Handler) (m : Machine) :
    (runBuiltin c handler m).1 = (visit c handler m).result := rfl

/-! ## Programs -/

theorem complain_print {text : String} (ht : text ≠ "") (m : Machine) :
    (Run.complain text m).2 = m.print .err text := by
  have htext : text.isEmpty = false := by simpa using ht
  simp only [Run.complain, modify_apply, htext, Bool.false_eq_true, if_false]

section Caught

variable {c : Command} {m m' : Machine} {r : Except Escape Int}
  (h : Run.program c.name c.args c.out c.err none m = (r, m'))

include h

theorem runProgram_ok {status : Int} (hr : r = .ok status) :
    runProgram c m = (.ok status, m') := by
  subst hr
  rw [runProgram, bind_apply, tryCatch_apply, bind_ok h]
  rfl

theorem runProgram_missing {name : String} (hr : r = .error (.fault (.notFound name))) :
    runProgram c m = (.ok 127, m'.print .err ((Fault.notFound name).message ++ "\n")) := by
  subst hr
  have ht : (Fault.notFound name).message ++ "\n" ≠ "" := Builtin.append_ne_empty _ (by decide)
  rw [← complain_print ht, runProgram, bind_apply, tryCatch_apply, bind_error h]
  rfl

theorem runProgram_unstarted {reason : String} (hr : r = .error (.fault (.start reason))) :
    runProgram c m = (.ok 126, m'.print .err s!"Error: {reason}\n") := by
  subst hr
  have ht : s!"Error: {reason}\n" ≠ "" := Builtin.append_ne_empty _ (by decide)
  rw [← complain_print ht, runProgram, bind_apply, tryCatch_apply, bind_error h]
  rfl

theorem runProgram_null (hr : r = .error (.fault .nullByte)) :
    runProgram c m = (.error (.fault .nullByte), m') := by
  subst hr
  rw [runProgram, bind_apply, tryCatch_apply, bind_error h]
  rfl

end Caught

/-! ## Commands -/

section Dispatch

variable (sh : Session) {c : Command} (m : Machine)

theorem dispatch_builtin {handler : Handler} (h : sh.handlers.lookup c.name = some handler) :
    sh.dispatch c m = runBuiltin c handler (m.note (.builtin c.name c.args)) := by
  simp only [dispatch, h]
  rfl

theorem dispatch_program (h : sh.handlers.lookup c.name = none) :
    sh.dispatch c m = runProgram c (m.note (.external c.name c.args)) := by
  simp only [dispatch, h]
  rfl

end Dispatch

end Session

end CommandShell
