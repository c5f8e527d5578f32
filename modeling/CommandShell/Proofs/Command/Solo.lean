import CommandShell.Proofs.Command.Delivery
import CommandShell.Proofs.File.Fresh

/-!
# One stream speaks

Two sinks may stand on one file as long as only one of them has something to write. What it writes
comes behind what the file holds when both are open.
-/

open CommandShell.Effect CommandShell.Scene

namespace CommandShell

namespace Sink

structure Silent (s : Sink) : Prop where
  opened : s.closed = false
  outlet : ∃ h, s.outlet = .file h ∧ h.IsIdle

theorem silent_resting {s : Sink} (hs : s.Silent) : s.Resting := by
  obtain ⟨h, ho, hi⟩ := hs.outlet
  refine ⟨hs.opened, fun h' ho' => ?_⟩
  cases ho.symm.trans ho'
  exact hi

end Sink

namespace Scene

/-- One sink is ready to write, and nothing waits in the other. -/
structure Solo (s : Scene) (speaker : Stream) : Prop where
  speaks : (s.sink speaker).Ready s.machine.disk
  silent : ∀ other, other ≠ speaker → (s.sink other).Silent

def told (s : Scene) (speaker : Stream) : Disk := (s.sink speaker).settled s.machine.disk

variable {s : Scene} {speaker : Stream}

theorem solo_replace (hs : s.Solo speaker) {sink : Sink} {m : Machine} (hr : sink.Ready m.disk) :
    (s.replace speaker sink m).Solo speaker where
  speaks := by
    rw [replace_sink, replace_machine]
    exact hr
  silent := by
    intro other ho
    rw [replace_sink_ne s ho]
    exact hs.silent other ho

theorem solo_write (hs : s.Solo speaker) (text : String) :
    ∃ s', Act.write speaker text s = (.ok (), s') ∧ s'.Solo speaker ∧
      s'.port? speaker = s.port? speaker ∧
      s'.told speaker = (s.told speaker).appendAt (s.port? speaker) (Utf8.encode text) := by
  obtain ⟨n, sink, m, written, hw, hagrees, hr, hport, -, hset⟩ := Sink.ready_write hs.speaks text
  have hd : m.disk = s.machine.disk.appendAt (s.port? speaker) written := hagrees.disk
  refine ⟨_, Act.write_ok hw, solo_replace hs hr, ?_, ?_⟩
  · rw [port?, replace_sink, hport, port?]
  · rw [told, replace_sink, replace_machine, hd]
    exact hset _

theorem solo_flush (hs : s.Solo speaker) (stream : Stream) :
    ∃ s', Act.flush stream s = (.ok (), s') ∧ s'.Solo speaker ∧
      s'.port? speaker = s.port? speaker ∧ s'.told speaker = s.told speaker := by
  by_cases hsp : stream = speaker
  · subst hsp
    obtain ⟨sink, hf, hr, hport, -, hset⟩ := Sink.ready_flush hs.speaks
    refine ⟨_, onSink_apply stream hf, solo_replace hs hr, ?_, ?_⟩
    · rw [port?, replace_sink, hport, port?]
    · rw [told, replace_sink, replace_machine, hset]
      rfl
  · have hf := Sink.resting_flush (Sink.silent_resting (hs.silent stream hsp)) s.machine
    refine ⟨s, ?_, hs, rfl, rfl⟩
    have happly := onSink_apply stream hf
    rwa [replace_same] at happly

theorem solo_other (hs : s.Solo speaker) {m : Machine} (hm : s.machine.Agrees m) :
    Solo { s with machine := m } speaker ∧
      told { s with machine := m } speaker = s.told speaker := by
  have hd : m.disk = s.machine.disk := hm.disk
  refine ⟨⟨?_, ?_⟩, ?_⟩
  · have hr := hs.speaks
    rw [← hd] at hr
    cases speaker <;> exact hr
  · intro other ho
    have hsilent := hs.silent other ho
    cases other <;> exact hsilent
  · unfold told
    simp only [hd]
    cases speaker <;> rfl

theorem solo_closeBoth (hs : s.Solo speaker) :
    ∃ s', onBoth Sink.close s = (.ok (), s') ∧ s'.machine.disk = s.told speaker ∧
      ∀ m, [s'.out, s'.err].foldl (fun m s => s.abandon m) m = m := by
  obtain ⟨sink, hclose, hleft⟩ := Sink.ready_close hs.speaks
  have hrests {other : Stream} (ho : other ≠ speaker) := Sink.silent_resting (hs.silent other ho)
  cases speaker with
  | out =>
    obtain ⟨err, herr, hleft'⟩ := Sink.resting_close (hrests (show Stream.err ≠ .out by rintro ⟨⟩))
      { s.machine with disk := s.told .out }
    refine ⟨_, onBoth_ok hclose herr, rfl, fun m => ?_⟩
    simp only [List.foldl_cons, List.foldl_nil, hleft, hleft']
  | err =>
    obtain ⟨out, hout, hleft'⟩ :=
      Sink.resting_close (hrests (show Stream.out ≠ .err by rintro ⟨⟩)) s.machine
    refine ⟨_, onBoth_ok hout hclose, rfl, fun m => ?_⟩
    simp only [List.foldl_cons, List.foldl_nil, hleft, hleft']

theorem solo_flushBoth (hs : s.Solo speaker) :
    ∃ s', Call.flushBoth s = (.ok (), s') ∧ s'.Solo speaker ∧
      s'.told speaker = s.told speaker := by
  obtain ⟨s₁, hf₁, hs₁, -, ht₁⟩ := solo_flush hs .out
  obtain ⟨s₂, hf₂, hs₂, -, ht₂⟩ := solo_flush hs₁ .err
  refine ⟨s₂, ?_, hs₂, ht₂.trans ht₁⟩
  rw [Call.flushBoth, bind_ok hf₁, hf₂]

end Scene

theorem join_eq_empty {texts : List String} (h : String.join texts = "") :
    ∀ text ∈ texts, text = "" := by
  induction texts with
  | nil => exact fun _ hmem => absurd hmem List.not_mem_nil
  | cons first rest ih =>
    rw [String.join_cons, String.append_eq_empty_iff] at h
    intro text hmem
    rcases List.mem_cons.mp hmem with rfl | hmem
    · exact h.1
    · exact ih h.2 text hmem

theorem emits_solo {s s' : Scene} {speaker : Stream} {es : List (Stream × String)}
    (h : Emits s es s') (hs : s.Solo speaker)
    (hes : ∀ other, other ≠ speaker → String.join (textsOn other es) = "") :
    s'.Solo speaker ∧ s'.told speaker =
      (s.told speaker).appendAt (s.port? speaker)
        (Utf8.encode (String.join (textsOn speaker es))) := by
  induction h with
  | done s => exact ⟨hs, (Disk.appendAt_nil _ _).symm⟩
  | @write s s' stream text es _ ih =>
    by_cases hsp : stream = speaker
    · subst hsp
      obtain ⟨s₁, hw, hs₁, hp₁, ht₁⟩ := Scene.solo_write hs text
      rw [hw] at ih
      have hrest : ∀ other, other ≠ stream → String.join (textsOn other es) = "" := by
        intro other ho
        have hall := hes other ho
        rwa [textsOn_cons, if_neg (Ne.symm ho)] at hall
      obtain ⟨hs', ht'⟩ := ih hs₁ hrest
      refine ⟨hs', ?_⟩
      rw [ht', ht₁, hp₁, Disk.appendAt_appendAt, textsOn_cons, if_pos rfl, String.join_cons,
        encode_append]
    · -- An empty text is never handed to the sink.
      have htext : text = "" := by
        refine join_eq_empty (hes stream hsp) text ?_
        rw [textsOn_cons, if_pos rfl]
        exact List.mem_cons_self
      subst htext
      have hw : Act.write stream "" s = (.ok (), s) := by
        rw [Act.write_ok (n := 0) rfl, replace_same]
      rw [hw] at ih
      have hrest : ∀ other, other ≠ speaker → String.join (textsOn other es) = "" := by
        intro other ho
        have hall := hes other ho
        rw [textsOn_cons] at hall
        split at hall
        · rwa [String.join_cons, String.empty_append] at hall
        · exact hall
      obtain ⟨hs', ht'⟩ := ih hs hrest
      rw [textsOn_cons, if_neg hsp]
      exact ⟨hs', ht'⟩
  | @flush s s' stream es _ ih =>
    obtain ⟨s₁, hf, hs₁, hp₁, ht₁⟩ := Scene.solo_flush hs stream
    rw [hf] at ih
    obtain ⟨hs', ht'⟩ := ih hs₁ hes
    exact ⟨hs', by rw [ht', ht₁, hp₁]⟩
  | @other s s' m es hm _ ih =>
    obtain ⟨hs₁, ht₁⟩ := Scene.solo_other hs hm
    obtain ⟨hs', ht'⟩ := ih hs₁ hes
    refine ⟨hs', ?_⟩
    rw [ht', ht₁]
    cases speaker <;> rfl

end CommandShell
