import CommandShell.Proofs.Command.Orderly
import CommandShell.Proofs.Session.Breaks

/-!
# Files that are let go

A visit opens up to two files and is to close them whatever way it ends. It fails to when closing
one of them does: that file stays open, and so does the one that was to be closed after it. The
other way is a second path with U+0000 in it, which nobody turns away.
-/

open CommandShell.Effect CommandShell.Scene

namespace CommandShell

namespace Sink

/-- The sink is on a file that was not let go. -/
def Held (s : Sink) : Prop := s.closed = false ∧ ∃ h, s.outlet = .file h

variable {s s' : Sink} {m m' : Machine}

theorem flush_kept {f : Fault} (hf : flush s m = (.error f, s', m')) : s'.Held := by
  obtain ⟨hopen, h, ho⟩ := flush_failed hf
  rcases hrun : Handle.flush (h, m.disk) with ⟨e | _, h', d'⟩
  · rw [flush_error hopen ho hrun] at hf
    cases hf
    exact ⟨hopen, h', rfl⟩
  · rw [flush_ok hopen ho hrun] at hf
    cases hf

theorem close_released (hc : close s m = (.ok (), s', m')) : ¬ s'.Held := by
  rintro ⟨hopen, h, ho⟩
  unfold close at hc
  split at hc
  · next hclosed =>
    cases hc
    rw [hopen] at hclosed
    cases hclosed
  · split at hc
    · split at hc
      · cases hc
        cases hopen
      · next hn =>
        cases hc
        exact hn h ho
    · cases hc

theorem close_error_iff {f : Fault} :
    close s m = (.error f, s', m') ↔ flush s m = (.error f, s', m') := by
  constructor
  · intro hc
    unfold close at hc
    split at hc
    · cases hc
    · split at hc
      · split at hc <;> cases hc
      · next hf =>
        rw [hf]
        cases hc
        rfl
  · intro hf
    exact close_unflushed (flush_failed hf).1 hf

theorem ofTarget_held {stream : Stream} {t : Target} (h : ofTarget stream t m = .ok (s, m')) :
    s.Held ↔ t.path? ≠ none := by
  unfold ofTarget at h
  split at h
  · next hp =>
    cases h
    simp [Held, toConsole, hp]
  · next path hp =>
    unfold toFile at h
    split at h
    · cases h
    · split at h
      · cases h
        simp [Held, hp]
      · cases h

end Sink

namespace Call

variable {c : Call} {handler : Handler}

theorem report_orderly (c : Call) (e : Escape) : (c.report e).Orderly := by
  cases e with
  | fault f =>
    rw [report_eq]
    exact Act.orderly_bind (Act.orderly_write .err _) fun _ s => s.leads_refl
  | _ => exact fun s => s.leads_refl

theorem settle_orderly (ho : handler.Orderly) : (c.settle handler).Orderly := by
  intro s
  have hlead := ho c.toErrand s
  unfold settle
  rcases hrun : handler c.toErrand s with ⟨r, s'⟩
  rw [hrun] at hlead
  cases r with
  | ok status => exact hlead
  | error e => exact hlead.trans (report_orderly c e s')

theorem run_leads (hh : c.handler? = some handler) (ho : handler.Orderly) {s s' : Scene}
    {r : Except Escape Int} {c' : Call} (hr : c.run s = (r, c', s')) : s.Leads s' := by
  rcases hsettle : c.settle handler s with ⟨r₁, s₁⟩
  rcases hflush : flushBoth s₁ with ⟨q, s₂⟩
  have h₁ := settle_orderly (c := c) ho s
  rw [hsettle] at h₁
  have h₂ := Act.orderly_bind (Act.orderly_flush .out) (fun _ => Act.orderly_flush .err) s₁
  change s₁.Leads (flushBoth s₁).2 at h₂
  rw [hflush] at h₂
  have hs : s' = s₂ := by
    cases q with
    | ok _ =>
      rw [run_flushed hh hsettle hflush] at hr
      cases hr
      rfl
    | error e =>
      rw [run_unflushed hh hsettle hflush] at hr
      cases hr
      rfl
  rw [hs]
  exact h₁.trans h₂

end Call

namespace Session

/-- A file stays open when this call is over, and with this fault the call ends. -/
inductive Leaks (c : Command) (handler : Handler) (m : Machine) : Fault → Prop
  /-- The second target cannot be opened, in a way that is not reported. -/
  | name {out : Sink} {m' : Machine} :
      Sink.ofTarget .out c.out m = .ok (out, m') → c.out.path? ≠ none → c.err.HasNullByte →
      Leaks c handler m .nullByte
  /-- What is left in the first sink cannot be flushed. -/
  | out {out err sink : Sink} {m' m'' m₁ : Machine} {r : Except Escape Int} {call : Call}
      {s : Scene} {f : Fault} :
      Sink.ofTarget .out c.out m = .ok (out, m') → Sink.ofTarget .err c.err m' = .ok (err, m'') →
      Call.run (c.call handler) ⟨m'', out, err⟩ =
        (r, call, s) →
      s.out.flush s.machine = (.error f, sink, m₁) → Leaks c handler m f
  /-- What is left in the second sink cannot be flushed when the first is closed. -/
  | err {out err sink sink' : Sink} {m' m'' m₁ m₂ : Machine} {r : Except Escape Int}
      {call : Call} {s : Scene} {f : Fault} :
      Sink.ofTarget .out c.out m = .ok (out, m') → Sink.ofTarget .err c.err m' = .ok (err, m'') →
      Call.run (c.call handler) ⟨m'', out, err⟩ =
        (r, call, s) →
      s.out.close s.machine = (.ok (), sink, m₁) → s.err.flush m₁ = (.error f, sink', m₂) →
      Leaks c handler m f

section Visit

variable {c : Command} {handler : Handler} {m : Machine}

theorem turnAway_released {out : Sink} {m' : Machine} {stream : Stream} {t : Target}
    {path reason : String} (ho : Sink.ofTarget stream t m = .ok (out, m')) :
    ∀ s ∈ (turnAway [out] m' (.redirection path reason)).sinks, ¬ s.Held := by
  obtain ⟨out', m'', hclose, -⟩ := Sink.calm_close (Sink.ofTarget_calm ho).1
  simp only [turnAway, hclose, turnAway.reported, List.mem_singleton]
  rintro s rfl
  exact Sink.close_released hclose

theorem leaks_fault {f : Fault} (h : Leaks c handler m f) :
    (∃ s ∈ (visit c handler m).sinks, s.Held) ∧
      (visit c handler m).result = .error (.fault f) := by
  cases h with
  | name ho hp hn =>
    rw [visit_half ho (ofTarget_null hn)]
    exact ⟨⟨_, List.mem_singleton.mpr rfl, (Sink.ofTarget_held ho).mpr hp⟩, rfl⟩
  | out ho he hr hf =>
    rw [visit_opened ho he, between_eq hr (onBoth_error (Sink.close_error_iff.mpr hf))]
    exact ⟨⟨_, List.mem_cons_self, Sink.flush_kept hf⟩, rfl⟩
  | err ho he hr hc hf =>
    rw [visit_opened ho he, between_eq hr (onBoth_ok hc (Sink.close_error_iff.mpr hf))]
    exact ⟨⟨_, List.mem_cons_of_mem _ List.mem_cons_self, Sink.flush_kept hf⟩, rfl⟩

theorem held_leaks {s : Sink} (hs : s ∈ (visit c handler m).sinks) (hheld : s.Held) :
    ∃ f, Leaks c handler m f := by
  cases ho : Sink.ofTarget .out c.out m with
  | error f =>
    rw [visit_unopened ho] at hs
    cases f <;> cases hs
  | ok opened =>
    obtain ⟨out, m'⟩ := opened
    cases he : Sink.ofTarget .err c.err m' with
    | error f =>
      rw [visit_half ho he] at hs
      rcases Sink.ofTarget_error he with ⟨path, hp, hn, rfl⟩ | ⟨path, reason, -, -, rfl⟩
      · rw [List.mem_singleton.mp hs] at hheld
        exact ⟨_, .name ho ((Sink.ofTarget_held ho).mp hheld) ⟨path, hp, hn⟩⟩
      · exact absurd hheld (turnAway_released ho s hs)
    | ok opened =>
      obtain ⟨err, m''⟩ := opened
      rw [visit_opened ho he] at hs
      rcases hr : Call.run (c.call handler)
        ⟨m'', out, err⟩ with ⟨r, call, s₁⟩
      rcases hco : s₁.out.close s₁.machine with ⟨_ | _, out', m₁⟩
      · next f => exact ⟨f, .out ho he hr (Sink.close_error_iff.mp hco)⟩
      · rcases hce : s₁.err.close m₁ with ⟨_ | _, err', m₂⟩
        · next f => exact ⟨f, .err ho he hr hco (Sink.close_error_iff.mp hce)⟩
        · rw [between_eq hr (onBoth_ok hco hce)] at hs
          rcases List.mem_cons.mp hs with rfl | hs
          · exact absurd hheld (Sink.close_released hco)
          · rw [List.mem_singleton.mp hs] at hheld
            exact absurd hheld (Sink.close_released hce)

theorem leaks_orderly {f : Fault} (ho : handler.Orderly) (h : Leaks c handler m f) :
    f = .nullByte ∧ c.err.HasNullByte ∨
      ∃ e out m', f = .system e none ∧ Sink.ofTarget .out c.out m = .ok (out, m') ∧
        (m.writeError? c.out = some e ∨ m'.writeError? c.err = some e) := by
  cases h with
  | name _ _ hn => exact Or.inl ⟨rfl, hn⟩
  | @out out err _ m' m'' _ _ _ s _ hout herr hr hf =>
    obtain ⟨hcalm, -⟩ := Sink.ofTarget_calm hout
    obtain ⟨-, hg⟩ := Sink.ofTarget_calm herr
    have hlead := Call.run_leads rfl ho hr
    obtain ⟨e, rfl, hfails⟩ := Sink.becomes_flush_failed (Sink.calm_grows hcalm hg)
      (hlead.sinks .out) hlead.grows hf
    rw [Sink.writeError?_grows hcalm hg, Sink.ofTarget_writeError hout] at hfails
    exact Or.inr ⟨e, out, m', rfl, hout, Or.inl hfails⟩
  | @err out err _ _ m' m'' _ _ _ _ s _ hout herr hr hc hf =>
    obtain ⟨hcalm, -⟩ := Sink.ofTarget_calm herr
    have hlead := Call.run_leads rfl ho hr
    have hclose := (Sink.stays_close s.out s.machine).2
    rw [hc] at hclose
    obtain ⟨e, rfl, hfails⟩ := Sink.becomes_flush_failed hcalm (hlead.sinks .err)
      (hlead.grows.trans hclose) hf
    rw [Sink.ofTarget_writeError herr] at hfails
    exact Or.inr ⟨e, out, m', rfl, hout, Or.inr hfails⟩

theorem visit_closes (hh : Builtin.handlers.lookup c.name = some handler)
    (hn : ¬ c.err.HasNullByte) (hout : m.writeError? c.out = none)
    (herr : ∀ out m', Sink.ofTarget .out c.out m = .ok (out, m') → m'.writeError? c.err = none)
    {s : Sink} (hs : s ∈ (visit c handler m).sinks) : ¬ s.Held := by
  intro hheld
  obtain ⟨f, hf⟩ := held_leaks hs hheld
  rcases leaks_orderly (builtin_orderly hh) hf with ⟨-, hn'⟩ | ⟨e, out, m', -, ho, hfails | hfails⟩
  · exact hn hn'
  · cases hout.symm.trans hfails
  · cases (herr out m' ho).symm.trans hfails

end Visit

/-- A file is held after a visit exactly when the call leaks, and the visit ends in the fault of the
leak. Under a handler that works through its sinks that is a path with U+0000 or a target that takes
nothing. -/
theorem visit_releases (c : Command) (handler : Handler) (m : Machine) :
    ((∃ s ∈ (visit c handler m).sinks, s.Held) ↔ ∃ f, Leaks c handler m f) ∧
      ∀ f, Leaks c handler m f →
        (visit c handler m).result = .error (.fault f) ∧
        (handler.Orderly →
          f = .nullByte ∧ c.err.HasNullByte ∨
            ∃ e out m', f = .system e none ∧ Sink.ofTarget .out c.out m = .ok (out, m') ∧
              (m.writeError? c.out = some e ∨ m'.writeError? c.err = some e)) := by
  refine ⟨⟨?_, ?_⟩, fun f hf => ⟨(leaks_fault hf).2, fun ho => leaks_orderly ho hf⟩⟩
  · rintro ⟨s, hs, hheld⟩
    exact held_leaks hs hheld
  · rintro ⟨f, hf⟩
    exact (leaks_fault hf).1

example : (visit { name := "echo", args := ["hi"], out := .file "full" .overwrite } Builtin.echo
    { disk := ⟨#[.directory Disk.root [("full", 1)], .device (.failing .noSpace)]⟩ }).sinks.map
      (·.closed) = [false, false] := rfl

end Session

end CommandShell
