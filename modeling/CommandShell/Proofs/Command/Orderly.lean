import CommandShell.Proofs.Command.Deed
import CommandShell.Proofs.Command.Scene
import CommandShell.Proofs.File.Stance

/-!
# Handlers that work through their sinks

A handler may write to its two sinks, flush them, close them and fail. None of it brings a sink to
another file.
-/

open CommandShell.Effect CommandShell.Scene

namespace CommandShell

structure Scene.Leads (s s' : Scene) : Prop where
  sinks : ∀ stream, (s.sink stream).Becomes (s'.sink stream)
  grows : s.machine.disk.Grows s'.machine.disk

namespace Scene

theorem leads_refl (s : Scene) : s.Leads s :=
  ⟨fun stream => Sink.becomes_refl (s.sink stream), s.machine.disk.grows_refl⟩

theorem Leads.trans {s s' s'' : Scene} (h : s.Leads s') (h' : s'.Leads s'') : s.Leads s'' :=
  ⟨fun stream => (h.sinks stream).trans (h'.sinks stream), h.grows.trans h'.grows⟩

theorem leads_machine (s : Scene) {m : Machine} (hg : s.machine.disk.Grows m.disk) :
    s.Leads { s with machine := m } := by
  refine ⟨fun stream => ?_, hg⟩
  cases stream
  · exact Sink.becomes_refl s.out
  · exact Sink.becomes_refl s.err

end Scene

def Act.Orderly {α : Type} (x : Act α) : Prop := ∀ s, Scene.Leads s (x s).2

namespace Act

theorem orderly_bind {α β : Type} {x : Act α} {f : α → Act β} (hx : x.Orderly)
    (hf : ∀ a, (f a).Orderly) : (x >>= f).Orderly :=
  keeps_bind (K := Scene.Leads) (fun _ _ _ => Scene.Leads.trans) hx hf

theorem orderly_onSink {α : Type} (stream : Stream) {step : Sink.Step α} (hs : Sink.Stays step) :
    Orderly (onSink stream step) := by
  intro s
  obtain ⟨hbecomes, hgrows⟩ := hs (s.sink stream) s.machine
  rw [onSink_apply stream rfl]
  refine ⟨fun other => ?_, by simpa using hgrows⟩
  by_cases ho : other = stream
  · subst ho
    simpa using hbecomes
  · rw [replace_sink_ne s ho]
    exact Sink.becomes_refl _

theorem orderly_write (stream : Stream) (text : String) : (write stream text).Orderly :=
  orderly_bind (orderly_onSink stream (Sink.stays_write text)) fun _ s => s.leads_refl

theorem orderly_flush (stream : Stream) : (flush stream).Orderly :=
  orderly_onSink stream Sink.stays_flush

end Act

/-- The handler leaves both sinks on their files, whatever way it ends. It may write to them, flush
them and close them. -/
def Handler.Orderly (handler : Handler) : Prop := ∀ e, (handler e).Orderly

theorem deed_orderly {d : Deed} {s : Scene} (hm : d.IsMild s.machine) : s.Leads (d.act s).2 := by
  cases d with
  | tells stream text status m =>
    have hg : s.machine.disk.Grows m.disk := by
      rw [hm.1.disk]
      exact s.machine.disk.grows_refl
    rw [Deed.tells_act]
    exact (s.leads_machine hg).trans
      (Act.orderly_bind (Act.orderly_write stream text) (fun _ s => s.leads_refl) _)
  | silent status m =>
    have hg : s.machine.disk.Grows m.disk := by
      rw [Machine.Agrees.disk hm]
      exact s.machine.disk.grows_refl
    exact s.leads_machine hg
  | fails f => exact s.leads_refl
  | leaves status => exact s.leads_refl

theorem builtin_orderly {name : String} {handler : Handler}
    (h : Builtin.handlers.lookup name = some handler) : handler.Orderly := by
  rcases Builtin.handlers_deeds name with ⟨hnone, -⟩ | ⟨handler', deed, hh, hl, hd⟩
  · rw [hnone] at h
    cases h
  · cases hh.symm.trans h
    intro e s
    rw [hd e s]
    exact deed_orderly (Builtin.deeds_mild hl e.argText s.machine)

end CommandShell
