import CommandShell.Proofs.Command.Scene
import CommandShell.Proofs.File.Settled

/-!
# What a handler emits

A handler that writes to its sinks row by row brings each text to the console or the file of its
stream, and when both sinks are closed nothing of it is missing.
-/

open CommandShell.Effect

namespace CommandShell

/-- A row of writes, with nothing else that shows. -/
inductive Emits : Scene → List (Stream × String) → Scene → Prop
  | done (s : Scene) : Emits s [] s
  | write {s s' : Scene} {stream : Stream} {text : String} {es : List (Stream × String)} :
      Emits (Act.write stream text s).2 es s' → Emits s ((stream, text) :: es) s'
  | flush {s s' : Scene} {stream : Stream} {es : List (Stream × String)} :
      Emits (Act.flush stream s).2 es s' → Emits s es s'
  | other {s s' : Scene} {m : Machine} {es : List (Stream × String)} :
      s.machine.Agrees m → Emits { s with machine := m } es s' → Emits s es s'

def textsOn (stream : Stream) (es : List (Stream × String)) : List String :=
  (es.filter (·.1 = stream)).map (·.2)

/-! ## Texts on a machine -/

namespace Machine

theorem agrees_refl (m : Machine) : m.Agrees m := ⟨rfl, fun _ => rfl⟩

theorem Agrees.trans {m m' m'' : Machine} (h : m.Agrees m') (h' : m'.Agrees m'') : m.Agrees m'' :=
  ⟨h'.disk.trans h.disk, fun stream => (h'.console stream).trans (h.console stream)⟩

/-- The machine when a text has come to the port of its stream. -/
def bring (m : Machine) (port? : Stream → Option Ino) (e : Stream × String) : Machine :=
  { m.receive e.1 (port? e.1) e.2 with disk := m.disk.appendAt (port? e.1) (Utf8.encode e.2) }

theorem bring_console (m : Machine) (port? : Stream → Option Ino) (e : Stream × String)
    (stream : Stream) :
    (m.bring port? e).console stream =
      if stream = e.1 ∧ port? e.1 = none then
        (m.console stream).write ((m.console stream).look e.1 e.2)
      else m.console stream :=
  receive_console m e.1 (port? e.1) e.2 stream

theorem receive_agrees {m m' : Machine} (h : m.Agrees m') (stream : Stream)
    (port? : Option Ino) (text : String) :
    (m.receive stream port? text).Agrees (m'.receive stream port? text) := by
  refine ⟨by rw [receive_disk, receive_disk, h.disk], fun other => ?_⟩
  rw [receive_console, receive_console, h.console]

theorem bring_agrees {m m' : Machine} (h : m.Agrees m') (port? : Stream → Option Ino)
    (e : Stream × String) : (m.bring port? e).Agrees (m'.bring port? e) := by
  have hr := receive_agrees h e.1 (port? e.1) e.2
  exact ⟨by simp only [bring, h.disk], hr.console⟩

theorem bringAll_agrees {m m' : Machine} (h : m.Agrees m') (port? : Stream → Option Ino)
    (es : List (Stream × String)) :
    (es.foldl (bring · port?) m).Agrees (es.foldl (bring · port?) m') := by
  induction es generalizing m m' with
  | nil => exact h
  | cons e es ih => exact ih (bring_agrees h port? e)

end Machine

/-! ## Scenes -/

namespace Scene

def port? (s : Scene) (stream : Stream) : Option Ino := (s.sink stream).port?

/-- The machine when all that waits has come to the files. -/
def settled (s : Scene) : Machine :=
  { s.machine with disk := s.err.settled (s.out.settled s.machine.disk) }

theorem settled_console (s : Scene) (stream : Stream) :
    s.settled.console stream = s.machine.console stream := rfl

structure Ready (s : Scene) : Prop where
  sinks : ∀ stream, (s.sink stream).Ready s.machine.disk
  streams : ∀ stream, (s.sink stream).stream = stream
  apart : ∀ stream other, other ≠ stream → Disk.Apart (s.port? stream) (s.port? other)

variable {s : Scene}

theorem ready_replace (hr : s.Ready) {stream : Stream} {sink : Sink} {m : Machine} {bytes : Bytes}
    (hs : sink.Ready m.disk) (hstream : sink.stream = stream)
    (hport : sink.port? = s.port? stream)
    (hd : m.disk = s.machine.disk.appendAt (s.port? stream) bytes) :
    (s.replace stream sink m).Ready ∧
      ∀ other, (s.replace stream sink m).port? other = s.port? other := by
  have hports (other : Stream) : (s.replace stream sink m).port? other = s.port? other := by
    by_cases ho : other = stream
    · rw [port?, ho, replace_sink, hport]
    · rw [port?, replace_sink_ne s ho, port?]
  refine ⟨⟨fun other => ?_, fun other => ?_, fun a b hab => ?_⟩, hports⟩
  · by_cases ho : other = stream
    · rw [ho, replace_sink, replace_machine]
      exact hs
    · rw [replace_sink_ne s ho, replace_machine, hd]
      exact Sink.ready_appendAt (hr.sinks other) (hr.apart other stream (Ne.symm ho)) bytes
  · by_cases ho : other = stream
    · rw [ho, replace_sink, hstream]
    · rw [replace_sink_ne s ho, hr.streams]
  · rw [hports, hports]
    exact hr.apart a b hab

theorem ready_write (hr : s.Ready) (stream : Stream) (text : String) :
    ∃ s', Act.write stream text s = (.ok (), s') ∧ s'.Ready ∧
      (∀ other, s'.port? other = s.port? other) ∧
      (s.settled.bring s.port? (stream, text)).Agrees s'.settled := by
  obtain ⟨n, sink, m, written, hw, hagrees, hs, hport, hstream, hset⟩ :=
    Sink.ready_write (hr.sinks stream) text
  have hd : m.disk = s.machine.disk.appendAt (s.port? stream) written := hagrees.disk
  obtain ⟨hready, hports⟩ :=
    ready_replace hr hs (hstream.trans (hr.streams stream)) hport hd
  -- The error sink settles after the output sink, so a text on the output passes it by.
  refine ⟨_, Act.write_ok hw, hready, hports, ?_, fun other => ?_⟩
  · cases stream with
    | out =>
      have hout : sink.settled m.disk =
          (s.out.settled s.machine.disk).appendAt (s.port? .out) (Utf8.encode text) :=
        hd ▸ hset _
      simp only [replace, settled, Machine.bring, hout]
      exact Sink.settled_appendAt _ (hr.apart .err .out (by rintro ⟨⟩)) _
    | err =>
      have hout : s.out.settled m.disk =
          (s.out.settled s.machine.disk).appendAt (s.port? .err) written :=
        hd ▸ Sink.settled_appendAt _ (hr.apart .out .err (by rintro ⟨⟩)) _
      simp only [replace, settled, Machine.bring, hout]
      exact hset _
  · have hm : m.console other = (s.machine.receive (s.sink stream).stream (s.port? stream)
        text).console other := hagrees.console other
    rw [Machine.bring_console, settled_console, settled_console, replace_machine, hm, receive_console,
      hr.streams]

theorem ready_flush (hr : s.Ready) (stream : Stream) :
    ∃ s', Act.flush stream s = (.ok (), s') ∧ s'.Ready ∧
      (∀ other, s'.port? other = s.port? other) ∧ s.settled.Agrees s'.settled := by
  obtain ⟨sink, hf, hs, hport, hstream, hset⟩ := Sink.ready_flush (hr.sinks stream)
  obtain ⟨bytes, hbytes⟩ := (s.sink stream).settled_eq
  let m := { s.machine with disk := (s.sink stream).settled s.machine.disk }
  have hflush : Act.flush stream s = (.ok (), s.replace stream sink m) := onSink_apply stream hf
  obtain ⟨hready, hports⟩ :=
    ready_replace (m := m) hr hs (hstream.trans (hr.streams stream)) hport (hbytes _)
  refine ⟨_, hflush, hready, hports, ?_, fun other => ?_⟩
  · cases stream with
    | out =>
      simp only [replace, settled, hset]
      rfl
    | err =>
      have hlast : s.err.settled (s.out.settled s.machine.disk) =
          (s.out.settled s.machine.disk).appendAt (s.port? .err) bytes := hbytes _
      have hfirst : m.disk = s.machine.disk.appendAt (s.port? .err) bytes := hbytes _
      simp only [replace, settled, hset, hlast, hfirst]
      exact Sink.settled_appendAt _ (hr.apart .out .err (by rintro ⟨⟩)) _
  · rw [settled_console, settled_console, replace_machine]
    rfl

theorem ready_other (hr : s.Ready) {m : Machine} (hm : s.machine.Agrees m) :
    Ready { s with machine := m } ∧ s.settled.Agrees (settled { s with machine := m }) := by
  refine ⟨⟨fun stream => ?_, fun stream => ?_, fun stream other h => ?_⟩, ?_, fun stream => ?_⟩
  · have hs := hr.sinks stream
    rw [← hm.disk] at hs
    cases stream <;> exact hs
  · have hs := hr.streams stream
    cases stream <;> exact hs
  · have ha := hr.apart stream other h
    cases stream <;> cases other <;> exact ha
  · simp only [settled, hm.disk]
  · exact hm.console stream

end Scene

/-- A row of writes brings every text where it belongs. -/
theorem emits_brings {s s' : Scene} {es : List (Stream × String)} (h : Emits s es s')
    (hr : s.Ready) : s'.Ready ∧ (∀ stream, s'.port? stream = s.port? stream) ∧
      (es.foldl (Machine.bring · s.port?) s.settled).Agrees s'.settled := by
  induction h with
  | done s => exact ⟨hr, fun _ => rfl, s.settled.agrees_refl⟩
  | @write s s' stream text es _ ih =>
    obtain ⟨s₁, hw, hr₁, hp₁, ha₁⟩ := Scene.ready_write hr stream text
    rw [hw] at ih
    obtain ⟨hr', hp', ha'⟩ := ih hr₁
    rw [funext hp₁] at ha'
    exact ⟨hr', fun st => (hp' st).trans (hp₁ st),
      (Machine.bringAll_agrees ha₁ s.port? es).trans ha'⟩
  | @flush s s' stream es _ ih =>
    obtain ⟨s₁, hf, hr₁, hp₁, ha₁⟩ := Scene.ready_flush hr stream
    rw [hf] at ih
    obtain ⟨hr', hp', ha'⟩ := ih hr₁
    rw [funext hp₁] at ha'
    exact ⟨hr', fun st => (hp' st).trans (hp₁ st),
      (Machine.bringAll_agrees ha₁ s.port? es).trans ha'⟩
  | @other s s' m es hm _ ih =>
    obtain ⟨hr₁, ha₁⟩ := Scene.ready_other hr hm
    obtain ⟨hr', hp', ha'⟩ := ih hr₁
    have hp₁ (st : Stream) : Scene.port? { s with machine := m } st = s.port? st := by
      cases st <;> rfl
    rw [funext hp₁] at ha'
    exact ⟨hr', fun st => (hp' st).trans (hp₁ st),
      (Machine.bringAll_agrees ha₁ s.port? es).trans ha'⟩

/-! ## All texts together -/

theorem encode_append (text text' : String) :
    Utf8.encode (text ++ text') = Utf8.encode text ++ Utf8.encode text' := by
  simp [Utf8.encode]

theorem textsOn_cons (stream : Stream) (e : Stream × String) (es : List (Stream × String)) :
    textsOn stream (e :: es) =
      if e.1 = stream then e.2 :: textsOn stream es else textsOn stream es := by
  unfold textsOn
  by_cases h : e.1 = stream
  · simp [h]
  · simp [h]

theorem textsOn_append (stream : Stream) (es es' : List (Stream × String)) :
    textsOn stream (es ++ es') = textsOn stream es ++ textsOn stream es' := by
  simp [textsOn]

theorem bringAll_disk {port? : Stream → Option Ino}
    (ha : Disk.Apart (port? .out) (port? .err)) (es : List (Stream × String)) (m : Machine) :
    (es.foldl (Machine.bring · port?) m).disk =
      (m.disk.appendAt (port? .out) (Utf8.encode (String.join (textsOn .out es)))).appendAt
        (port? .err) (Utf8.encode (String.join (textsOn .err es))) := by
  induction es generalizing m with
  | nil => exact ((Disk.appendAt_nil _ _).trans (Disk.appendAt_nil _ _)).symm
  | cons e es ih =>
    obtain ⟨stream, text⟩ := e
    rw [List.foldl_cons, ih, textsOn_cons, textsOn_cons]
    cases stream with
    | out =>
      simp only [if_true, reduceCtorEq, if_false, String.join_cons, encode_append]
      rw [← Disk.appendAt_appendAt]
      rfl
    | err =>
      simp only [if_true, reduceCtorEq, if_false, String.join_cons, encode_append]
      have hcomm := Disk.appendAt_comm m.disk ha
        (Utf8.encode (String.join (textsOn .out es))) (Utf8.encode text)
      rw [← Disk.appendAt_appendAt, hcomm]
      rfl

def Console.shown (c : Console) (stream : Stream) (texts : List String) : String :=
  String.join (texts.map (c.look stream))

theorem write_write (c : Console) (text text' : String) :
    (c.write text).write text' = c.write (text ++ text') := by
  simp [Console.write, String.append_assoc]

theorem look_write (c : Console) (text : String) : (c.write text).look = c.look := rfl

theorem bringAll_console (port? : Stream → Option Ino) (es : List (Stream × String))
    (m : Machine) (stream : Stream) :
    (es.foldl (Machine.bring · port?) m).console stream =
      if port? stream = none then
        (m.console stream).write ((m.console stream).shown stream (textsOn stream es))
      else m.console stream := by
  induction es generalizing m with
  | nil =>
    split
    · exact (write_empty _).symm
    · rfl
  | cons e es ih =>
    rw [List.foldl_cons, ih, Machine.bring_console, textsOn_cons]
    by_cases hs : e.1 = stream
    · subst hs
      by_cases hp : port? e.1 = none
      · simp only [hp, and_self, if_true, write_write, Console.shown, look_write, List.map_cons,
          String.join_cons]
      · simp only [hp, and_false, if_false]
    · have hs' : ¬ stream = e.1 := fun h => hs h.symm
      simp only [hs, hs', false_and, if_false]

/-! ## Closing -/

theorem ready_closeBoth {s : Scene} (hr : s.Ready) :
    ∃ s', Scene.onBoth Sink.close s = (.ok (), s') ∧ s.settled.Agrees s'.machine ∧
      ∀ m, [s'.out, s'.err].foldl (fun m s => s.abandon m) m = m := by
  obtain ⟨out, ho, hout⟩ := Sink.ready_close (hr.sinks .out)
  obtain ⟨bytes, hbytes⟩ := s.out.settled_eq
  have herr : s.err.Ready (s.out.settled s.machine.disk) :=
    hbytes _ ▸ Sink.ready_appendAt (hr.sinks .err) (hr.apart .err .out (by rintro ⟨⟩)) bytes
  obtain ⟨err, he, herr⟩ :=
    Sink.ready_close (m := { s.machine with disk := s.out.settled s.machine.disk }) herr
  refine ⟨⟨_, out, err⟩, Scene.onBoth_ok ho he, ⟨rfl, fun _ => rfl⟩, fun m => ?_⟩
  simp only [List.foldl_cons, List.foldl_nil, hout, herr]

theorem ready_flushBoth {s : Scene} (hr : s.Ready) :
    ∃ s', Call.flushBoth s = (.ok (), s') ∧ s'.Ready ∧ s.settled.Agrees s'.settled := by
  obtain ⟨s₁, hf₁, hr₁, -, ha₁⟩ := Scene.ready_flush hr .out
  obtain ⟨s₂, hf₂, hr₂, -, ha₂⟩ := Scene.ready_flush hr₁ .err
  exact ⟨s₂, by rw [Call.flushBoth, bind_ok hf₁, hf₂], hr₂, ha₁.trans ha₂⟩

end CommandShell
