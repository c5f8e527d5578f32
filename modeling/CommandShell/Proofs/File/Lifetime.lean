import CommandShell.Proofs.Command.Delivery
import CommandShell.Proofs.Disk.Opening

/-!
# The life of a sink

A sink takes any requests in any order. What it was given waits until it is flushed or closed, and a
file sink that was closed takes nothing more; the other sinks are never closed.
-/

namespace CommandShell

namespace Sink

/-! ## Requests -/

inductive Data
  | chars (text : String)
  | raw (bytes : Bytes)
  deriving DecidableEq, Repr

def Data.decoded : Data → String
  | chars text => text
  | raw bytes => String.ofList (Utf8.decodeLossy bytes)

inductive Request
  | write (data : Data)
  | flush
  | close
  | value
  deriving DecidableEq, Repr

def Request.text : Request → String
  | write data => data.decoded
  | _ => ""

inductive Answer
  | count (n : Nat)
  | done
  | text (text : String)
  deriving DecidableEq, Repr

def answered {α : Type} (f : α → Answer) :
    Except Fault α × Sink × Machine → Except Fault Answer × Sink × Machine
  | (r, s, m) => (r.map f, s, m)

def perform : Request → Step Answer
  | .write (.chars text) => fun s m => answered .count (Sink.write text s m)
  | .write (.raw bytes) => fun s m => answered .count (writeBytes bytes s m)
  | .flush => fun s m => answered (fun _ => .done) (Sink.flush s m)
  | .close => fun s m => answered (fun _ => .done) (Sink.close s m)
  | .value => fun s m => (.ok (.text s.value), s, m)

theorem perform_write (data : Data) (s : Sink) (m : Machine) :
    perform (.write data) s m = answered .count (Sink.write data.decoded s m) := by
  cases data <;> rfl

def reply (name : String) (closed : Bool) (value : String) : Request → Except Fault Answer
  | .write data =>
    if data.decoded ≠ "" ∧ closed = true then .error (.closedSink name)
    else .ok (.count data.decoded.length)
  | .flush | .close => .ok .done
  | .value => .ok (.text value)

abbrev Entry := Request × Except Fault Answer

/-- All the text that was written, of the requests that were granted. -/
def taken (log : List Entry) : String :=
  String.join (log.map fun (q, r) => if r.isOk then q.text else "")

theorem taken_concat (log : List Entry) (q : Request) (r : Except Fault Answer) :
    taken (log ++ [(q, r)]) = taken log ++ if r.isOk then q.text else "" := by
  simp [taken, String.join_append]

/-- Requests to a sink, with what else happens to the machine in between. -/
inductive History (Meanwhile : Machine → Machine → Prop) (s : Sink) (m : Machine) :
    List Entry → Sink → Machine → Prop
  | start : History Meanwhile s m [] s m
  | meanwhile {log : List Entry} {s' : Sink} {m' m'' : Machine} :
      History Meanwhile s m log s' m' → Meanwhile m' m'' → History Meanwhile s m log s' m''
  | request {log : List Entry} {s' s'' : Sink} {m' m'' : Machine} {q : Request}
      {r : Except Fault Answer} :
      History Meanwhile s m log s' m' → perform q s' m' = (r, s'', m'') →
      History Meanwhile s m (log ++ [(q, r)]) s'' m''

def performAll : List Request → Sink → Machine → List Entry × Sink × Machine
  | [], s, m => ([], s, m)
  | q :: rest, s, m =>
    match perform q s m with
    | (r, s, m) =>
      match performAll rest s m with
      | (log, s, m) => ((q, r) :: log, s, m)

theorem history_performAll {Meanwhile : Machine → Machine → Prop} {s s' : Sink} {m m' : Machine}
    {log : List Entry} (h : History Meanwhile s m log s' m') (requests : List Request) :
    History Meanwhile s m (log ++ (performAll requests s' m').1) (performAll requests s' m').2.1
      (performAll requests s' m').2.2 := by
  induction requests generalizing log s' m' with
  | nil => simpa [performAll] using h
  | cons q rest ih =>
    have hrest := ih (h.request (q := q) rfl)
    rw [List.append_assoc] at hrest
    exact hrest

/-! ## File sinks -/

/-- The sink stands on the file `i`, which comes to hold `total` when nothing waits any more. A
closed sink keeps nothing waiting. -/
structure Stores (path : String) (i rights : Nat) (total : Bytes) (s : Sink) (m : Machine) :
    Prop where
  name : s.name = path
  file : ∃ h content, s.outlet = .file h ∧ h.node = i ∧
    m.disk.file? i = some (content, rights) ∧ content ++ h.block ++ h.text = total ∧
    (s.closed = false → h.Aligned m.disk) ∧ (s.closed = true → content = total)

section Stores

variable {path : String} {i rights : Nat} {total : Bytes} {s : Sink} {m : Machine}

theorem Stores.meanwhile {m' : Machine} (h : s.Stores path i rights total m)
    (hf : m'.disk.file? i = m.disk.file? i) : s.Stores path i rights total m' := by
  obtain ⟨hn, handle, content, ho, rfl, hfile, htotal, ha, hc⟩ := h
  refine ⟨hn, handle, content, ho, rfl, hf.trans hfile, htotal, fun hopen => ?_, hc⟩
  obtain ⟨content', rights', hfile', hpos⟩ := ha hopen
  refine ⟨content', rights', hf.trans hfile', ?_⟩
  rw [← hpos]
  unfold Handle.position
  rw [Handle.size_file hfile', Handle.size_file (hf.trans hfile')]

theorem stores_write (h : s.Stores path i rights total m) (hopen : s.closed = false)
    (text : String) :
    ∃ s' bytes, Sink.write text s m =
        (.ok text.length, s', { m with disk := m.disk.append i bytes }) ∧
      s'.closed = false ∧
      s'.Stores path i rights (total ++ Utf8.encode text)
        { m with disk := m.disk.append i bytes } := by
  by_cases ht : text = ""
  · subst ht
    refine ⟨s, [], ?_, hopen, ?_⟩
    · rw [Disk.append_nil]
      rfl
    · rw [Disk.append_nil]
      simpa [Utf8.encode] using h
  · obtain ⟨hn, handle, content, ho, rfl, hfile, htotal, ha, -⟩ := h
    obtain ⟨written, handle', d', hw, ⟨hnode, rfl, ha'⟩, hall⟩ :=
      Handle.write_ok (Handle.keeps_aligned m.disk handle.node) [] (Utf8.encode text)
        (Handle.aligned_holds (ha hopen))
    refine ⟨_, written, write_ok hopen ho ht hw, hopen, hn, handle', content ++ written, rfl, hnode,
      Disk.file?_append_self hfile written, ?_, fun _ => ha', ?_⟩
    · rw [← htotal]
      simpa using congrArg (content ++ ·) hall
    · intro hclosed
      exact absurd (hopen.symm.trans hclosed) (by decide)

theorem stores_flush (h : s.Stores path i rights total m) (hopen : s.closed = false) :
    ∃ handle bytes, Sink.flush s m =
        (.ok (), { s with outlet := .file handle }, { m with disk := m.disk.append i bytes }) ∧
      (m.disk.append i bytes).file? i = some (total, rights) ∧
      ∀ closed, ({ s with outlet := .file handle, closed } : Sink).Stores path i rights total
        { m with disk := m.disk.append i bytes } := by
  obtain ⟨hn, handle, content, ho, rfl, hfile, htotal, ha, -⟩ := h
  obtain ⟨handle', d', hf, ⟨hnode, rfl, ha'⟩, hblock, htext⟩ :=
    Handle.flush_ok (Handle.keeps_aligned m.disk handle.node) [] (Handle.aligned_holds (ha hopen))
  have hfile' := Disk.file?_append_self hfile ([] ++ handle.block ++ handle.text)
  rw [List.nil_append, ← List.append_assoc, htotal] at hfile'
  refine ⟨handle', _, flush_ok hopen ho hf, by simpa using hfile', fun closed => ?_⟩
  refine ⟨hn, handle', total, rfl, hnode, by simpa using hfile', ?_, fun _ => ha', fun _ => rfl⟩
  rw [hblock, htext, List.append_nil, List.append_nil]

theorem reply_closed (q : Request) :
    (if (reply path true "" q).isOk then q.text else "") = "" := by
  cases q with
  | write data =>
    by_cases ht : data.decoded = "" <;> simp [reply, Request.text, ht, Except.isOk, Except.toBool]
  | _ => rfl

theorem perform_closed {handle : Handle} (ho : s.outlet = .file handle) (hc : s.closed = true)
    (q : Request) : perform q s m = (reply s.name true "" q, s, m) := by
  cases q with
  | write data =>
    rw [perform_write]
    by_cases ht : data.decoded = ""
    · simp [Sink.write, answered, reply, Except.map, ht]
    · simp [Sink.write, answered, reply, Except.map, ht, hc]
  | flush => simp [perform, Sink.flush, answered, reply, Except.map, ho, hc]
  | close => simp [perform, Sink.close, answered, reply, Except.map, hc]
  | value => simp [perform, value, reply, ho]

/-- What a request does to a file sink and to its file. -/
theorem stores_perform (h : s.Stores path i rights total m) (q : Request) :
    ∃ s' bytes, perform q s m =
        (reply path s.closed "" q, s', { m with disk := m.disk.append i bytes }) ∧
      s'.closed = (s.closed || q = .close) ∧
      s'.Stores path i rights
        (total ++ Utf8.encode (if (reply path s.closed "" q).isOk then q.text else ""))
        { m with disk := m.disk.append i bytes } ∧
      (s.closed = true → s' = s ∧ bytes = []) ∧
      (q = .flush ∨ q = .close → (m.disk.append i bytes).file? i = some (total, rights)) := by
  have hnothing : total ++ Utf8.encode "" = total := by simp [Utf8.encode]
  cases hopen : s.closed with
  | true =>
    obtain ⟨handle, content, ho, -, hfile, -, -, hc⟩ := h.file
    refine ⟨s, [], ?_, by simp [hopen], ?_, fun _ => ⟨rfl, rfl⟩, fun _ => ?_⟩
    · rw [Disk.append_nil, perform_closed ho hopen, h.name]
    · rw [Disk.append_nil, reply_closed, hnothing]
      exact h
    · rw [Disk.append_nil, hfile, hc hopen]
  | false =>
    have hnever {P : Prop} : false = true → P := fun hf => absurd hf (by decide)
    cases q with
    | write data =>
      obtain ⟨s', bytes, hw, hopen', hstores⟩ := stores_write h hopen data.decoded
      have hreply : reply path false "" (.write data) = .ok (.count data.decoded.length) := by
        simp [reply]
      refine ⟨s', bytes, ?_, by simp [hopen'], ?_, hnever, by simp⟩
      · rw [perform_write, hw, hreply]
        rfl
      · rw [hreply]
        exact hstores
    | flush =>
      obtain ⟨handle, bytes, hf, hfile, hstores⟩ := stores_flush h hopen
      refine ⟨{ s with outlet := .file handle }, bytes, ?_, by simp [hopen], ?_, hnever,
        fun _ => hfile⟩
      · simp only [perform, hf, answered, reply, Except.map]
      · exact hnothing.symm ▸ hstores s.closed
    | close =>
      obtain ⟨handle, bytes, hf, hfile, hstores⟩ := stores_flush h hopen
      have hclose : Sink.close s m = (.ok (), { s with outlet := .file handle, closed := true },
          { m with disk := m.disk.append i bytes }) := by
        simp only [Sink.close, hopen, hf, Bool.false_eq_true, if_false]
      refine ⟨{ s with outlet := .file handle, closed := true }, bytes, ?_, by simp, ?_, hnever,
        fun _ => hfile⟩
      · simp only [perform, hclose, answered, reply, Except.map]
      · exact hnothing.symm ▸ hstores true
    | value =>
      obtain ⟨handle, -, ho, -⟩ := h.file
      refine ⟨s, [], ?_, by simp [hopen], ?_, hnever, by simp⟩
      · rw [Disk.append_nil]
        simp [perform, value, reply, ho]
      · rw [Disk.append_nil]
        exact hnothing.symm ▸ h

theorem stores_history {base : Bytes} {log : List Entry} {s' : Sink} {m' : Machine}
    (h : s.Stores path i rights base m) (hopen : s.closed = false)
    (hh : History (fun m m' => m'.disk.file? i = m.disk.file? i) s m log s' m') :
    (s'.closed = true ↔ .close ∈ log.map Prod.fst) ∧
      s'.Stores path i rights (base ++ Utf8.encode (taken log)) m' := by
  induction hh with
  | start => exact ⟨by simp [hopen], by simpa [taken, Utf8.encode] using h⟩
  | meanwhile _ hf ih => exact ⟨ih.1, ih.2.meanwhile hf⟩
  | @request log s₁ s₂ m₁ m₂ q r _ hrun ih =>
    obtain ⟨hclosed, hstores⟩ := ih
    obtain ⟨s', bytes, hperform, hclosed', hstores', -⟩ := stores_perform hstores q
    obtain ⟨rfl, hrest⟩ := Prod.mk.inj (hrun.symm.trans hperform)
    obtain ⟨rfl, rfl⟩ := Prod.mk.inj hrest
    refine ⟨?_, ?_⟩
    · rw [hclosed', Bool.or_eq_true, decide_eq_true_iff, List.map_append, List.mem_append, ← hclosed,
        @eq_comm _ q]
      simp
    · rw [taken_concat, encode_append, ← List.append_assoc]
      exact hstores'

end Stores

/-! ## Other sinks -/

section Other

variable (stream : Stream) (name before : String)

theorem perform_console (q : Request) (m : Machine) :
    perform q ⟨stream, .console, name, false⟩ m =
      (reply name false "" q, ⟨stream, .console, name, false⟩,
        if q.text.isEmpty then m else m.print stream q.text) := by
  cases q with
  | write data =>
    rw [perform_write, write_console rfl rfl]
    simp [answered, reply, Request.text, Except.map]
  | _ => rfl

theorem perform_memory (q : Request) (m : Machine) :
    perform q ⟨stream, .memory before, name, false⟩ m =
      (reply name false before q, ⟨stream, .memory (before ++ q.text), name, false⟩, m) := by
  have hnothing : before ++ "" = before := String.append_empty
  cases q with
  | write data =>
    rw [perform_write]
    by_cases ht : data.decoded = ""
    · simp [Sink.write, answered, reply, Request.text, Except.map, ht]
    · simp [Sink.write, answered, reply, Request.text, Except.map, ht]
  | _ =>
    simp only [Request.text, hnothing]
    rfl

theorem reply_open (value : String) (q : Request) :
    (if (reply name false value q).isOk then q.text else "") = q.text := by
  cases q with
  | write data => simp [reply, Except.isOk, Except.toBool]
  | _ => rfl

variable {stream name before} {Meanwhile : Machine → Machine → Prop} {s : Sink} {m m' : Machine}
  {log : List Entry}

theorem console_history
    (h : History Meanwhile ⟨stream, .console, name, false⟩ m log s m') :
    s = ⟨stream, .console, name, false⟩ := by
  induction h with
  | start => rfl
  | meanwhile _ _ ih => exact ih
  | request _ hrun ih =>
    rw [ih, perform_console] at hrun
    exact (Prod.mk.inj (Prod.mk.inj hrun).2).1.symm

theorem memory_history
    (h : History Meanwhile ⟨stream, .memory before, name, false⟩ m log s m') :
    s = ⟨stream, .memory (before ++ taken log), name, false⟩ := by
  induction h with
  | start => simp [taken]
  | meanwhile _ _ ih => exact ih
  | request _ hrun ih =>
    rw [ih, perform_memory] at hrun
    obtain ⟨rfl, hrest⟩ := Prod.mk.inj hrun
    rw [taken_concat, reply_open, ← String.append_assoc]
    exact (Prod.mk.inj hrest).1.symm

end Other

/-! ## All sinks -/

/-- The life of a sink: on a file that was opened and that nobody else changes, on a console, and in
memory. A file sink is closed when that was first asked for. A flush or a close brings all that was
granted so far to the file, behind what it started with, and nothing is done any more to a sink that
was closed. -/
theorem life_cycle (stream : Stream) :
    (∀ {path : String} {mode : OpenMode} {m m₀ : Machine} {s : Sink},
      toFile stream path mode m = .ok (s, m₀) → ¬ m.disk.IsDevice m.cwd path →
        ∃ i rights, m₀.disk.place .use m.cwd path = .ok (.found i) ∧
          m₀.disk.file? i = some (Disk.start mode (m.disk.content? m.cwd path), rights) ∧
          ∀ {log : List Entry} {s' : Sink} {m' : Machine},
            History (fun m m' => m'.disk.file? i = m.disk.file? i) s m₀ log s' m' →
              let total := Disk.start mode (m.disk.content? m.cwd path) ++ Utf8.encode (taken log)
              (s'.closed = true ↔ .close ∈ log.map Prod.fst) ∧
              (s'.closed = true → m'.disk.file? i = some (total, rights)) ∧
              ∀ q, ∃ s'' m'', perform q s' m' = (reply path s'.closed "" q, s'', m'') ∧
                (∃ bytes, m'' = { m' with disk := m'.disk.append i bytes }) ∧
                (s'.closed = true → s'' = s' ∧ m'' = m') ∧
                (q = .flush ∨ q = .close → m''.disk.file? i = some (total, rights))) ∧
    (∀ {Meanwhile : Machine → Machine → Prop} {m m' : Machine} {log : List Entry} {s' : Sink},
      History Meanwhile (toConsole stream) m log s' m' →
        s'.closed = false ∧ ∀ q, perform q s' m' = (reply "<console>" false "" q, s',
          if q.text.isEmpty then m' else m'.print stream q.text)) ∧
    ∀ {Meanwhile : Machine → Machine → Prop} {m m' : Machine} {log : List Entry} {s' : Sink},
      History Meanwhile (toMemory stream) m log s' m' →
        s'.closed = false ∧ ∀ q, ∃ s'', s''.value = taken log ++ q.text ∧
          perform q s' m' = (reply "<buffer>" false (taken log) q, s'', m') := by
  refine ⟨?_, ?_, ?_⟩
  · intro path mode m m₀ s hopen hfile
    unfold toFile at hopen
    split at hopen
    · cases hopen
    split at hopen
    · next handle disk ho =>
      obtain ⟨rfl, rfl⟩ := Prod.mk.inj (Except.ok.inj hopen)
      obtain ⟨i, hopened, rfl⟩ := Handle.openAt_ok ho
      obtain ⟨hplace, rights, hf⟩ := (Disk.open_ways hopened).starts hfile
      refine ⟨i, rights, hplace, hf, fun {log s' m'} hh => ?_⟩
      have hstart : Stores path i rights (Disk.start mode (m.disk.content? m.cwd path))
          ⟨stream, .file { node := i, mode }, path, false⟩ { m with disk } :=
        ⟨rfl, _, _, rfl, rfl, hf, by simp, fun _ => Handle.aligned_start hf, by simp⟩
      obtain ⟨hclosed, hstores⟩ := stores_history hstart rfl hh
      refine ⟨hclosed, ?_, fun q => ?_⟩
      · intro hc
        obtain ⟨-, content, -, -, hcontent, -, -, hall⟩ := hstores.file
        rw [hcontent, hall hc]
      · obtain ⟨s'', bytes, hrun, -, -, hrests, hflushed⟩ := stores_perform hstores q
        refine ⟨s'', _, hrun, ⟨bytes, rfl⟩, fun hc => ?_, hflushed⟩
        obtain ⟨rfl, rfl⟩ := hrests hc
        exact ⟨rfl, by rw [Disk.append_nil]⟩
    · cases hopen
  · intro Meanwhile m m' log s' hh
    obtain rfl := console_history hh
    exact ⟨rfl, fun q => perform_console stream "<console>" q m'⟩
  · intro Meanwhile m m' log s' hh
    have hs : s' = ⟨stream, .memory (taken log), "<buffer>", false⟩ := by
      rw [memory_history hh, String.empty_append]
    rw [hs]
    exact ⟨rfl, fun q => ⟨_, rfl, perform_memory stream "<buffer>" (taken log) q m'⟩⟩

def lifeMachine : Machine where
  disk := ⟨#[
    .directory Disk.root [("f", 1)],
    .regular (Utf8.encode "a") 0o644]⟩

def lifeRequests : List Request :=
  [.write (.chars "é"), .value, .flush, .write (.raw [0xFF]), .close, .write (.chars "c"),
    .write (.chars ""), .close]

theorem life_cycle_append :
    ∃ s m₀, toFile .out "f" .append lifeMachine = .ok (s, m₀) ∧
      (performAll lifeRequests s m₀).1.map Prod.snd =
        [.ok (.count 1), .ok (.text ""), .ok .done, .ok (.count 1), .ok .done,
          .error (.closedSink "f"), .ok (.count 0), .ok .done] ∧
      (performAll lifeRequests s m₀).2.2.disk.file? 1 =
        some (Utf8.encode "aé\uFFFD", 0o644) := by
  have hfile : ¬ lifeMachine.disk.IsDevice lifeMachine.cwd "f" := by
    rintro ⟨i, device, hplace, hn⟩
    have hi : lifeMachine.disk.place .use lifeMachine.cwd "f" = .ok (.found 1) := rfl
    cases hplace.symm.trans hi
    cases hn
  have hopen : toFile .out "f" .append lifeMachine =
      .ok (⟨.out, .file { node := 1, mode := .append }, "f", false⟩, lifeMachine) := rfl
  obtain ⟨i, rights, hplace, hbase, hlife⟩ := (life_cycle .out).1 hopen hfile
  have hi : lifeMachine.disk.place .use lifeMachine.cwd "f" = .ok (.found 1) := rfl
  cases hplace.symm.trans hi
  refine ⟨_, _, hopen, rfl, ?_⟩
  obtain rfl : rights = 0o644 := (Prod.mk.inj (Option.some.inj hbase)).2.symm
  obtain ⟨-, hkept, -⟩ := hlife (history_performAll .start lifeRequests)
  exact hkept rfl

end Sink

end CommandShell
