import CommandShell.Proofs.File.Lifetime
import CommandShell.Proofs.Session.Outcome

/-!
# A call that is run again and again

Both stores of a call grow with each of its runs: by what the handler wrote, and by one report if it
failed. The status of the call is that of the last run that came to one.
-/

open CommandShell.Effect

namespace CommandShell

/-! ## Handlers at work -/

theorem Handler.of_apply {body : Errand → Act (Option Int)} {e : Errand} {s s' : Scene}
    {ending : Except Escape (Option Int)} (h : body e s = (ending, s')) :
    Handler.of body e s = (ending.map (·.getD 0), s') := by
  rw [Handler.of, bind_apply, h]
  cases ending <;> rfl

theorem map_some_apply {α : Type} (x : Act α) (s : Scene) :
    (some <$> x) s = ((x s).1.map some, (x s).2) := by
  rw [map_eq_pure_bind, bind_apply]
  rcases x s with ⟨r, s'⟩
  cases r <;> rfl

theorem Handler.of_some (handler : Handler) :
    Handler.of (fun e => some <$> handler e) = handler := by
  funext e s
  rw [Handler.of_apply (map_some_apply (handler e) s)]
  rcases handler e s with ⟨r, s'⟩
  cases r <;> rfl

def stored (held : Stream → String) (rows : List (Stream × String)) (stream : Stream) : String :=
  held stream ++ String.join (textsOn stream rows)

theorem stored_nil (held : Stream → String) : stored held [] = held := by
  funext stream
  simp [stored, textsOn]

theorem stored_append (held : Stream → String) (rows more : List (Stream × String)) :
    stored held (rows ++ more) = stored (stored held rows) more := by
  funext stream
  simp [stored, textsOn_append, String.join_append, String.append_assoc]

namespace Scene

/-- What a handler does through its sinks, text by text, with anything else that it does to the
machine. -/
inductive Works : Scene → List (Stream × String) → Scene → Prop
  | rests (s : Scene) : Works s [] s
  | elsewhere {s s' : Scene} {rows : List (Stream × String)} (m : Machine)
      (rest : Works { s with machine := m } rows s') : Works s rows s'
  | request {s s' : Scene} {rows : List (Stream × String)} {stream : Stream} {q : Sink.Request}
      {r : Except Fault Sink.Answer} {sink : Sink} {m : Machine}
      (step : Sink.perform q (s.sink stream) s.machine = (r, sink, m))
      (rest : Works (s.replace stream sink m) rows s') : Works s ((stream, q.text) :: rows) s'

/-- The handler changes its sinks by requests to them alone. -/
def AtWork (s s' : Scene) : Prop := ∃ rows, s.Works rows s'

theorem Works.trans {s s' s'' : Scene} {rows more : List (Stream × String)} (h : s.Works rows s')
    (h' : s'.Works more s'') : s.Works (rows ++ more) s'' := by
  induction h with
  | rests => exact h'
  | elsewhere m _ ih => exact .elsewhere m (ih h')
  | request step _ ih => exact .request step (ih h')

theorem atWork_refl (s : Scene) : s.AtWork s := ⟨[], .rests s⟩

theorem atWork_bind {α β : Type} {x : Act α} {f : α → Act β} (hx : Keeps AtWork x)
    (hf : ∀ a, Keeps AtWork (f a)) : Keeps AtWork (x >>= f) :=
  keeps_bind (fun _ _ _ ⟨_, h⟩ ⟨_, h'⟩ => ⟨_, h.trans h'⟩) hx hf

theorem atWork_write (stream : Stream) (text : String) :
    Keeps AtWork (Act.write stream text) := by
  intro s
  rcases hw : Sink.write text (s.sink stream) s.machine with ⟨r, sink, m⟩
  have hstep : Sink.perform (.write (.chars text)) (s.sink stream) s.machine =
      (r.map .count, sink, m) := by
    rw [Sink.perform_write, Sink.Data.decoded, hw]
    rfl
  have hrest : (Act.write stream text s).2 = s.replace stream sink m := by
    cases r with
    | ok n => rw [Act.write_ok hw]
    | error f => rw [Act.write_error hw]
  rw [hrest]
  exact ⟨_, .request hstep (.rests _)⟩

theorem atWork_machine (m : Machine) :
    Keeps AtWork (modify fun s => { s with machine := m } : Act Unit) :=
  fun s => ⟨[], .elsewhere m (.rests { s with machine := m })⟩

end Scene

theorem Deed.act_atWork (d : Deed) : Keeps Scene.AtWork d.act := by
  have hanswer (status : Int) : Keeps Scene.AtWork (pure status : Act Int) :=
    keeps_pure Scene.atWork_refl status
  cases d with
  | tells stream text status m =>
    exact Scene.atWork_bind (Scene.atWork_machine m) fun _ =>
      Scene.atWork_bind (Scene.atWork_write stream text) fun _ => hanswer status
  | silent status m => exact Scene.atWork_bind (Scene.atWork_machine m) fun _ => hanswer status
  | fails f => exact Scene.atWork_refl
  | leaves status => exact Scene.atWork_refl

theorem Builtin.handlers_atWork {name : String} {handler : Handler}
    (h : handlers.lookup name = some handler) :
    ∃ body, handler = Handler.of body ∧ ∀ e, Keeps Scene.AtWork (body e) := by
  rcases handlers_deeds name with ⟨hnone, -⟩ | ⟨known, deed, hknown, -, hdoes⟩
  · cases hnone.symm.trans h
  · cases hknown.symm.trans h
    refine ⟨fun e => some <$> handler e, (Handler.of_some handler).symm, fun e s => ?_⟩
    show s.AtWork ((some <$> handler e) s).2
    rw [map_some_apply, hdoes]
    exact (deed e.argText s.machine).act_atWork s

namespace Scene

/-- Both sinks are stores in memory, with these texts. -/
def Holds (s : Scene) (held : Stream → String) : Prop :=
  ∀ stream, s.sink stream = ⟨stream, .memory (held stream), "<buffer>", false⟩

variable {s s' : Scene} {held : Stream → String} {rows : List (Stream × String)}

theorem Holds.machine (h : s.Holds held) (m : Machine) : Holds { s with machine := m } held := by
  rintro (_ | _)
  · exact h .out
  · exact h .err

theorem Holds.rests (h : s.Holds held) : s.Resting := by
  intro stream
  rw [h stream]
  exact ⟨rfl, by rintro _ ⟨⟩⟩

theorem Holds.replace (h : s.Holds held) (stream : Stream) (text : String) (m : Machine) :
    (s.replace stream ⟨stream, .memory (held stream ++ text), "<buffer>", false⟩ m).Holds
      (stored held [(stream, text)]) := by
  intro other
  by_cases ho : other = stream
  · subst ho
    simp [stored, textsOn]
  · rw [replace_sink_ne s ho, h other]
    simp [stored, textsOn, Ne.symm ho]

theorem Holds.write (h : s.Holds held) (stream : Stream) {text : String} (ht : text ≠ "") :
    ∃ s', Act.write stream text s = (.ok (), s') ∧ s'.Holds (stored held [(stream, text)]) := by
  have hw : Sink.write text (s.sink stream) s.machine =
      (.ok text.length, ⟨stream, .memory (held stream ++ text), "<buffer>", false⟩, s.machine) := by
    simp [Sink.write, h stream, ht]
  exact ⟨_, Act.write_ok hw, h.replace stream text s.machine⟩

theorem Holds.works (h : s.Holds held) (hw : s.Works rows s') : s'.Holds (stored held rows) := by
  induction hw generalizing held with
  | rests s => rwa [stored_nil]
  | elsewhere m _ ih => exact ih (h.machine m)
  | @request s s' rows stream q r sink m step _ ih =>
    rw [h stream, Sink.perform_memory] at step
    obtain ⟨rfl, rfl⟩ := Prod.mk.inj (Prod.mk.inj step).2
    have hrest := ih (h.replace stream q.text s.machine)
    rwa [← stored_append] at hrest

end Scene

namespace Call

/-! ## Turns -/

/-- One run of a call: there is no handler, or the handler wrote some texts and then ended. -/
inductive Turn
  | missing
  | played (rows : List (Stream × String)) (ending : Except Escape (Option Int))

namespace Turn

def report (name : String) : Turn → List (Stream × String)
  | missing => [(.err, s!"Error: No executor for command '{name}'\n")]
  | played _ (.error (.fault (.usage message))) => [(.err, message ++ "\n")]
  | played _ (.error (.fault f)) => [(.err, s!"Error executing '{name}': {f.message}\n")]
  | played .. => []

def written : Turn → List (Stream × String)
  | missing => []
  | played rows _ => rows

def texts (name : String) (t : Turn) : List (Stream × String) := t.written ++ t.report name

def result : Turn → Except Escape Int
  | missing => .ok 127
  | played _ (.ok status?) => .ok (status?.getD 0)
  | played _ (.error (.fault _)) => .ok 1
  | played _ (.error escape) => .error escape

/-- The turn is what a body, if there is one, does when it is told this. -/
inductive Taken (body? : Option (Errand → Act (Option Int))) (e : Errand) (s : Scene) :
    Turn → Prop
  | missing (hbody : body? = none) : Taken body? e s .missing
  | played {body : Errand → Act (Option Int)} {rows : List (Stream × String)} {s' : Scene}
      {ending : Except Escape (Option Int)} (hbody : body? = some body)
      (step : body e s = (ending, s')) (works : s.Works rows s') :
      Taken body? e s (.played rows ending)

end Turn

section Run

variable {body? : Option (Errand → Act (Option Int))} {c : Call} {s : Scene}
  {held : Stream → String}

/-- A handler that fails after it has written something is reported behind that. -/
theorem settle_turn {body : Errand → Act (Option Int)} {s' : Scene}
    {ending : Except Escape (Option Int)} (rows : List (Stream × String))
    (step : body c.toErrand s = (ending, s')) (h : s'.Holds held) :
    ∃ s'', c.settle (Handler.of body) s = ((Turn.played rows ending).result, s'') ∧
      s''.Holds (stored held ((Turn.played rows ending).report c.name)) := by
  have hrun := Handler.of_apply step
  cases ending with
  | ok status? => exact ⟨s', settle_ok hrun, by simpa [Turn.report, stored_nil] using h⟩
  | error e =>
    have hsettle := settle_error hrun
    cases e with
    | fault f =>
      obtain ⟨s'', hw, hs''⟩ := h.write .err (c.reportText_ne f)
      refine ⟨s'', ?_, ?_⟩
      · rw [hsettle, report_eq, bind_ok hw]
        rfl
      · cases f <;> exact hs''
    | exit status => exact ⟨s', hsettle, by simpa [Turn.report, stored_nil] using h⟩
    | interrupt message => exact ⟨s', hsettle, by simpa [Turn.report, stored_nil] using h⟩

theorem run_turn (hh : c.handler? = body?.map Handler.of) {turn : Turn}
    (ht : turn.Taken body? c.toErrand s) (h : s.Holds held) :
    ∃ s', c.run s = (turn.result, c.after turn.result, s') ∧
      s'.Holds (stored held (turn.texts c.name)) := by
  cases ht with
  | missing hbody =>
    have hne : s!"Error: No executor for command '{c.name}'\n" ≠ "" :=
      Builtin.append_ne_empty _ (by decide)
    obtain ⟨s', hw, hs'⟩ := h.write .err hne
    exact ⟨s', by simp [run, hh, hbody, hw, Turn.result, after], hs'⟩
  | @played body rows s' ending hbody step works =>
    have hhandler : c.handler? = some (Handler.of body) := by rw [hh, hbody]; rfl
    obtain ⟨s'', hsettle, hs''⟩ := settle_turn rows step (h.works works)
    refine ⟨s'', run_flushed hhandler hsettle (Scene.resting_flushBoth hs''.rests), ?_⟩
    rwa [Turn.texts, stored_append]

end Run

/-! ## Runs one after the other -/

abbrev Entry := Turn × Except Escape Int

/-- Runs of a call one after the other, with anything that happens to the machine in between. -/
inductive History (body? : Option (Errand → Act (Option Int))) (c : Call) (s : Scene) :
    List Entry → Call → Scene → Prop
  | start : History body? c s [] c s
  | meanwhile {log : List Entry} {c' : Call} {s' : Scene} (before : History body? c s log c' s')
      (m : Machine) : History body? c s log c' { s' with machine := m }
  | run {log : List Entry} {c' c'' : Call} {s' s'' : Scene} {turn : Turn} {r : Except Escape Int}
      (before : History body? c s log c' s') (taken : turn.Taken body? c'.toErrand s')
      (step : c'.run s' = (r, c'', s'')) : History body? c s (log ++ [(turn, r)]) c'' s''

def lastStatus (log : List Entry) : Int :=
  ((log.filterMap (·.2.toOption)).getLast?).getD 0

theorem after_eq (c : Call) (r : Except Escape Int) :
    c.after r = { c with status := r.toOption.getD c.status } := by
  cases r <;> rfl

theorem lastStatus_concat (log : List Entry) (turn : Turn) (r : Except Escape Int) :
    lastStatus (log ++ [(turn, r)]) = r.toOption.getD (lastStatus log) := by
  cases r <;> simp [lastStatus, Except.toOption]

section History

variable {body? : Option (Errand → Act (Option Int))} {c c' : Call} {s s' : Scene}
  {held : Stream → String} {log : List Entry}

theorem history_turns (hh : c.handler? = body?.map Handler.of) (hc : c.status = 0)
    (hs : s.Holds held) (h : History body? c s log c' s') :
    s'.Holds (stored held (log.flatMap (·.1.texts c.name))) ∧
      (∀ turn r, (turn, r) ∈ log → r = turn.result) ∧
      c' = { c with status := lastStatus log } := by
  induction h with
  | start =>
    refine ⟨by rwa [List.flatMap_nil, stored_nil], by simp, ?_⟩
    rw [show lastStatus [] = c.status from hc.symm]
  | meanwhile _ m ih => exact ⟨ih.1.machine m, ih.2⟩
  | @run log c' c'' s' s'' turn r _ taken step ih =>
    obtain ⟨hholds, hresults, rfl⟩ := ih
    obtain ⟨t, hrun, ht⟩ := run_turn (c := { c with status := lastStatus log }) hh taken hholds
    obtain ⟨rfl, hrest⟩ := Prod.mk.inj (step.symm.trans hrun)
    obtain ⟨rfl, rfl⟩ := Prod.mk.inj hrest
    refine ⟨?_, ?_, ?_⟩
    · rwa [List.flatMap_append, stored_append, List.flatMap_singleton]
    · intro turn' r' hmem
      rcases List.mem_append.mp hmem with hmem | hmem
      · exact hresults turn' r' hmem
      · cases List.mem_singleton.mp hmem
        rfl
    · rw [after_eq, lastStatus_concat]

theorem history_goes_on
    (hwork : ∀ body, body? = some body → ∀ e, Keeps Scene.AtWork (body e))
    (c : Call) (s : Scene) (n : Nat) :
    ∃ log c' s', History body? c s log c' s' ∧ log.length = n := by
  induction n with
  | zero => exact ⟨[], c, s, .start, rfl⟩
  | succ n ih =>
    obtain ⟨log, c', s', h, hn⟩ := ih
    obtain ⟨turn, ht⟩ : ∃ turn : Turn, turn.Taken body? c'.toErrand s' := by
      cases hbody : body? with
      | none => exact ⟨_, .missing rfl⟩
      | some body =>
        obtain ⟨rows, hw⟩ := hwork body hbody c'.toErrand s'
        exact ⟨_, .played rfl rfl hw⟩
    exact ⟨_, _, _, h.run ht rfl, by simp [hn]⟩

end History

def fresh (name : String) (args : List String) (body? : Option (Errand → Act (Option Int))) :
    Call :=
  { name, args, handler? := body?.map Handler.of }

/-- A call that is run again and again into two stores keeps in them all that its handler wrote, and
behind the texts of each run the report on it. -/
theorem runs_accumulate (body? : Option (Errand → Act (Option Int))) (name : String)
    (args : List String) (m : Machine) :
    (∀ {log c s},
      History body? (fresh name args body?) ⟨m, .toMemory .out, .toMemory .err⟩ log c s →
      (∀ stream, (s.sink stream).value =
        String.join (textsOn stream (log.flatMap (·.1.texts name)))) ∧
      (∀ turn r, (turn, r) ∈ log → r = turn.result) ∧
      c = { fresh name args body? with status := lastStatus log } ∧
      ∀ turn : Turn, turn.Taken body? ⟨name, args, lastStatus log⟩ s →
        ∃ s', c.run s = (turn.result, c.after turn.result, s') ∧
          ∀ stream, (s'.sink stream).value =
            (s.sink stream).value ++ String.join (textsOn stream (turn.texts name))) ∧
    ((∀ body, body? = some body → ∀ e, Keeps Scene.AtWork (body e)) →
      ∀ n, ∃ log c s,
        History body? (fresh name args body?) ⟨m, .toMemory .out, .toMemory .err⟩ log c s ∧
          log.length = n) := by
  have hempty : Scene.Holds ⟨m, .toMemory .out, .toMemory .err⟩ fun _ => "" := by
    rintro (_ | _) <;> rfl
  refine ⟨fun {log c s} h => ?_, fun hwork n => history_goes_on hwork _ _ n⟩
  obtain ⟨hholds, hresults, rfl⟩ := history_turns rfl rfl hempty h
  refine ⟨fun stream => ?_, hresults, rfl, fun turn ht => ?_⟩
  · rw [hholds stream]
    exact String.empty_append
  · obtain ⟨s', hrun, hs'⟩ :=
      run_turn (c := { fresh name args body? with status := lastStatus log }) rfl ht hholds
    refine ⟨s', hrun, fun stream => ?_⟩
    rw [hs' stream, hholds stream]
    rfl

def fickle (e : Errand) : Act (Option Int) := do
  Act.write .out e.argText
  Act.write .err "!"
  let count := (← get).machine.events.size
  modify fun s => { s with machine := s.machine.note (.moved e.argText) }
  match count with
  | 0 => throw (.fault (.usage "Usage: f"))
  | 1 => throw (.fault (.shell "lost"))
  | 2 => throw (.exit (.code 7))
  | _ => return none

def storesAfter (count : Nat) (out err : String) : Scene :=
  ⟨{ disk := .empty, events := ⟨List.replicate count (.moved "a b")⟩ },
    ⟨.out, .memory out, "<buffer>", false⟩, ⟨.err, .memory err, "<buffer>", false⟩⟩

theorem fickle_works (count : Nat) (out err : String) :
    (storesAfter count out err).Works [(.out, "a b"), (.err, "!")]
      (storesAfter (count + 1) (out ++ "a b") (err ++ "!")) :=
  .request (q := .write (.chars "a b")) rfl
    (.request (q := .write (.chars "!")) rfl
      (.elsewhere _ (.rests (storesAfter (count + 1) (out ++ "a b") (err ++ "!")))))

theorem runs_accumulate_fickle :
    ∃ log c s, History (some fickle) (fresh "f" ["a", "b"] (some fickle))
        ⟨{ disk := .empty }, .toMemory .out, .toMemory .err⟩ log c s ∧
      log.map (·.2) = [.ok 1, .ok 1, .error (.exit (.code 7)), .ok 0] ∧ c.status = 0 ∧
      s.out.value = "a ba ba ba b" ∧
      s.err.value = "!Usage: f\n!Error executing 'f': lost\n!!" := by
  obtain ⟨hall, -⟩ := runs_accumulate (some fickle) "f" ["a", "b"] { disk := .empty }
  let c (status : Int) : Call := { fresh "f" ["a", "b"] (some fickle) with status }
  have hfirst : (c 0).run (storesAfter 0 "" "") =
      (.ok 1, c 1, storesAfter 1 "a b" "!Usage: f\n") := rfl
  have hsecond : (c 1).run (storesAfter 1 "a b" "!Usage: f\n") =
      (.ok 1, c 1, storesAfter 2 "a ba b" "!Usage: f\n!Error executing 'f': lost\n") := rfl
  have hthird : (c 1).run (storesAfter 2 "a ba b" "!Usage: f\n!Error executing 'f': lost\n") =
      (.error (.exit (.code 7)), c 1,
        storesAfter 3 "a ba ba b" "!Usage: f\n!Error executing 'f': lost\n!") := rfl
  have hfourth : (c 1).run
      (storesAfter 3 "a ba ba b" "!Usage: f\n!Error executing 'f': lost\n!") =
      (.ok 0, c 0, storesAfter 4 "a ba ba ba b" "!Usage: f\n!Error executing 'f': lost\n!!") := rfl
  have hstart : History (some fickle) (c 0) (storesAfter 0 "" "") [] (c 0) (storesAfter 0 "" "") :=
    .start
  have h := (((hstart.run (.played rfl rfl (fickle_works 0 _ _)) hfirst).run
    (.played rfl rfl (fickle_works 1 _ _)) hsecond).run
    (.played rfl rfl (fickle_works 2 _ _)) hthird).run
    (.played rfl rfl (fickle_works 3 _ _)) hfourth
  obtain ⟨hvalues, -, hc, -⟩ := hall h
  exact ⟨_, _, _, h, rfl, by rw [hc]; rfl, (hvalues .out).trans rfl, (hvalues .err).trans rfl⟩

end Call

end CommandShell
