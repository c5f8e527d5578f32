import CommandShell.Proofs.Session.Meaning
import CommandShell.Proofs.Session.Store
import CommandShell.Proofs.Session.Twin

/-!
# What a line says

The texts that a line prints on the two consoles, in their order: its syntax error, what a builtin
writes to a stream that is not redirected, what is caught from a program for one, and every report.
They depend on nothing that was printed before, nor on how it looks.
-/

open CommandShell.Effect CommandShell.Scene

namespace CommandShell

namespace Machine

/-- The texts have been printed on the consoles of their streams, and nothing else has. -/
def Shows (m : Machine) (rows : List (Stream × String)) (m' : Machine) : Prop :=
  ∀ stream, m'.console stream =
    (m.console stream).write ((m.console stream).shown stream (textsOn stream rows))

variable {m m' m'' : Machine} {rows rows' : List (Stream × String)}

theorem shows_nil (h : ∀ stream, m'.console stream = m.console stream) : m.Shows [] m' :=
  fun stream => (h stream).trans (write_empty _).symm

theorem Shows.trans (h : m.Shows rows m') (h' : m'.Shows rows' m'') :
    m.Shows (rows ++ rows') m'' := by
  intro stream
  simp only [h' stream, h stream, write_write, Console.shown, look_write, textsOn_append,
    List.map_append, String.join_append]

theorem Shows.later (h' : m'.Shows rows m'')
    (h : ∀ stream, m'.console stream = m.console stream) : m.Shows rows m'' := by
  intro stream
  rw [h' stream, h stream]

theorem note_console (m : Machine) (e : Event) (stream : Stream) :
    (m.note e).console stream = m.console stream := by
  cases stream <;> rfl

theorem shows_print (m : Machine) (stream : Stream) {text : String} (ht : text ≠ "") :
    m.Shows [(stream, text)] (m.print stream text) := by
  have htext : text.isEmpty = false := by simpa using ht
  intro other
  cases stream <;> cases other <;>
    simp [textsOn, Console.shown, Console.look, print, display, setConsole, console, htext,
      write_empty]

end Machine

/-! ## Steps -/

namespace Scene

/-- The texts of a row of steps are those that come to the consoles. -/
theorem goes_shows {s s' : Scene} {rows : List (Stream × String)} (h : s.Goes rows s')
    (hs : ∀ stream, (s.sink stream).stream = stream) : s.machine.Shows rows s'.machine := by
  induction h with
  | rests s => exact Machine.shows_nil fun _ => rfl
  | @step s s' stream texts sink m rows hdoes _ ih =>
    have hkept : sink.stream = stream := by
      rw [← hs stream]
      cases hdoes <;> rfl
    have hstreams (other : Stream) : ((s.replace stream sink m).sink other).stream = other := by
      by_cases ho : other = stream
      · rw [ho, replace_sink, hkept]
      · rw [replace_sink_ne s ho, hs]
    have hrest := ih hstreams
    rw [replace_machine] at hrest
    refine Machine.Shows.trans ?_ hrest
    cases hdoes with
    | prints _ _ ht =>
      rw [hs stream]
      exact Machine.shows_print _ stream ht
    | _ => exact Machine.shows_nil fun other => by cases other <;> rfl

end Scene

namespace Sink

theorem ofTarget_spoken {stream : Stream} {t : Target} {s : Sink} {m m' : Machine}
    (h : ofTarget stream t m = .ok (s, m')) {text : String} (ht : text ≠ "") :
    s.stream = stream ∧ s.spoken text = if t.isConsole then [text] else [] := by
  unfold ofTarget toFile at h
  split at h
  · next hp =>
    cases h
    simp [spoken, toConsole, Target.isConsole, hp, ht]
  · next path hp =>
    split at h
    · cases h
    · split at h
      · cases h
        simp [spoken, Target.isConsole, hp]
      · cases h

end Sink

namespace Deed

theorem texts_ne {c : Call} {s : Scene} {d : Deed} {m : Machine} (hm : d.IsMild m) :
    ∀ row ∈ d.texts c s, row.2 ≠ "" := by
  intro row hrow
  cases d with
  | tells stream text status m' =>
    rw [texts, List.mem_cons] at hrow
    rcases hrow with rfl | hrow
    · exact hm.2
    · obtain ⟨e, -, rfl⟩ := Option.map_eq_some_iff.mp (Option.mem_toList.mp hrow)
      exact c.reportText_ne (.system e none)
  | fails f =>
    obtain rfl := List.mem_singleton.mp hrow
    exact c.reportText_ne f
  | _ => cases hrow

end Deed

namespace Session

/-! ## Builtins -/

def turnedTexts : Fault → List (Stream × String)
  | .redirection path reason => [(.err, (Fault.redirection path reason).message ++ "\n")]
  | _ => []

/-- What a builtin prints: what it writes to the streams that are not redirected. -/
def builtinTexts (c : Command) (deed : String → Machine → Deed) (m : Machine) :
    List (Stream × String) :=
  match Sink.ofTarget .out c.out m with
  | .error f => turnedTexts f
  | .ok (out, m₁) =>
    match Sink.ofTarget .err c.err m₁ with
    | .error f => turnedTexts f
    | .ok (err, m₂) =>
      ((deed (Command.argText c.args) m₂).texts { c.errand with handler? := none }
        ⟨m₂, out, err⟩).filter fun row => (c.target row.1).isConsole

theorem turned_shows (f : Fault) (m : Machine) : m.Shows (turnedTexts f) (turned f m).2 := by
  cases f with
  | redirection path reason =>
    exact Machine.shows_print m .err (Builtin.append_ne_empty _ (show "\n" ≠ "" by decide))
  | _ => exact Machine.shows_nil fun _ => rfl

section Builtin

variable {c : Command} {handler : Handler} {deed : String → Machine → Deed}

theorem ofTarget_console {stream : Stream} {t : Target} {s : Sink} {m m' : Machine}
    (h : Sink.ofTarget stream t m = .ok (s, m')) (other : Stream) :
    m'.console other = m.console other := by
  rw [Sink.ofTarget_disk h]
  cases other <;> rfl

section Opened

variable {m m₁ m₂ : Machine} {out err : Sink}
  (ho : Sink.ofTarget .out c.out m = .ok (out, m₁))
  (he : Sink.ofTarget .err c.err m₁ = .ok (err, m₂))

include ho he

theorem opened_spoken (stream : Stream) {text : String} (ht : text ≠ "") :
    (Scene.sink ⟨m₂, out, err⟩ stream).stream = stream ∧
      (Scene.sink ⟨m₂, out, err⟩ stream).spoken text =
        if (c.target stream).isConsole then [text] else [] := by
  cases stream with
  | out => exact Sink.ofTarget_spoken ho ht
  | err => exact Sink.ofTarget_spoken he ht

theorem opened_voice {rows : List (Stream × String)} (hrows : ∀ row ∈ rows, row.2 ≠ "") :
    rows.flatMap (voice ⟨m₂, out, err⟩) = rows.filter fun row => (c.target row.1).isConsole := by
  induction rows with
  | nil => rfl
  | cons row rows ih =>
    obtain ⟨hrow, hrest⟩ := List.forall_mem_cons.mp hrows
    rw [List.flatMap_cons, ih hrest, List.filter_cons, voice, (opened_spoken ho he row.1 hrow).2]
    cases (c.target row.1).isConsole <;> rfl

end Opened

theorem runBuiltin_shows (hl : Builtin.deeds.lookup c.name = some deed) (hd : handler.Does deed)
    (m : Machine) : m.Shows (builtinTexts c deed m) (runBuiltin c handler m).2 := by
  unfold builtinTexts
  cases ho : Sink.ofTarget .out c.out m with
  | error f =>
    rw [runBuiltin_unopened ho]
    exact turned_shows f m
  | ok opened =>
    obtain ⟨out, m₁⟩ := opened
    simp only
    refine Machine.Shows.later ?_ (ofTarget_console ho)
    cases he : Sink.ofTarget .err c.err m₁ with
    | error f =>
      rw [runBuiltin_half ho he]
      exact turned_shows f m₁
    | ok opened' =>
      obtain ⟨err, m₂⟩ := opened'
      simp only
      refine Machine.Shows.later ?_ (ofTarget_console he)
      have hm := Builtin.deeds_mild hl (Command.argText c.args) m₂
      obtain ⟨s, hgoes, hmachine⟩ := runBuiltin_goes hd hm ho he
      have hshows := goes_shows hgoes fun stream => by
        have hstream := (opened_spoken ho he stream (show "\n" ≠ "" by decide)).1
        cases stream <;> exact hstream
      rw [opened_voice ho he (Deed.texts_ne hm), hmachine] at hshows
      exact hshows.later (Deed.machine_agrees hm).console

end Builtin

/-! ## Programs -/

def routeTexts (stream : Stream) (t : Target) (text : String) (m : Machine) :
    List (Stream × String) :=
  match t.path? with
  | none => if text.isEmpty then [] else [(stream, text)]
  | some path =>
    match (m.writeFile path text t.mode).1 with
    | .error (.system e _) => [(.err, s!"Error writing to {path}: {e.text}\n")]
    | _ => []

def programTexts (c : Command) (m : Machine) : List (Stream × String) :=
  match m.findProgram? c.name none with
  | none => [(.err, s!"{c.name}: not found\n")]
  | some file =>
    match m.start file (c.name :: c.args) with
    | .error f => [(.err, s!"Error: {f.message}\n")]
    | .ok (_, finished) =>
      let m := { m with disk := finished.disk }
      routeTexts .out c.out (capturedText finished.out) m ++
        match Run.route .out c.out (capturedText finished.out) m with
        | (.ok (), m) => routeTexts .err c.err (capturedText finished.err) m
        | (.error _, _) => []

theorem writeFile_shows (m : Machine) (path text : String) (mode : OpenMode) :
    m.Shows [] (m.writeFile path text mode).2 := by
  obtain ⟨disk, hm⟩ := writeFile_disk m path text mode
  rw [hm]
  exact Machine.shows_nil fun stream => by cases stream <;> rfl

theorem route_shows (stream : Stream) (t : Target) (text : String) (m : Machine) :
    m.Shows (routeTexts stream t text m) (Run.route stream t text m).2 := by
  cases hp : t.path? with
  | none =>
    rw [routeTexts, hp, Run.route_console hp]
    simp only
    split
    · exact Machine.shows_nil fun _ => rfl
    · next ht => exact Machine.shows_print m stream (by simpa using ht)
  | some path =>
    have hwritten := writeFile_shows m path text t.mode
    rw [routeTexts, hp]
    by_cases hn : t.HasNullByte
    · obtain ⟨path', hp', hn'⟩ := hn
      cases hp.symm.trans hp'
      rw [Run.route_null ⟨path, hp, hn'⟩]
      simp only [writeFile_null hn']
      exact Machine.shows_nil fun _ => rfl
    · have hpath : Disk.isPathText path = true := by
        rw [← Bool.not_eq_false]
        exact fun h => hn ⟨path, hp, h⟩
      obtain ⟨r, m', hw, rfl | ⟨e, path?, rfl⟩⟩ := writeFile_ends t.mode text m hpath
      · rw [hw] at hwritten
        rw [Run.route_written hp hw]
        simp only [hw]
        exact hwritten
      · have ht : s!"Error writing to {path}: {e.text}\n" ≠ "" :=
          Builtin.append_ne_empty _ (by decide)
        rw [hw] at hwritten
        rw [Run.route_reported hp hw, complain_print ht]
        simp only [hw]
        exact hwritten.trans (Machine.shows_print m' .err ht)

theorem core_parallel : Machine.Parallel (fun m m' => m'.core = m.core) Eq Eq where
  files := Disk.parallel_eq
  core := fun h => h ▸ rfl
  alike := fun h => (congrArg Machine.disk h.symm :)
  disk := by
    rintro m m' h disk _ rfl
    exact (congrArg (fun n => { n with disk }) h :)
  cwd := fun h cwd => (congrArg (fun n => { n with cwd }) h :)
  note := fun h _ => h
  print := by
    rintro m m' h (_ | _) text -
    · exact h
    · exact h

theorem routeTexts_core {m m' : Machine} (h : m'.core = m.core) (stream : Stream) (t : Target)
    (text : String) : routeTexts stream t text m' = routeTexts stream t text m := by
  unfold routeTexts
  cases t.path? with
  | none => rfl
  | some path =>
    obtain ⟨r, n, n', hw, hw', -⟩ := twin_writeFile core_parallel h path text t.mode
    simp only [hw, hw']

theorem program_shows (settings : Settings) {c : Command} {m : Machine}
    (hn : c.name ∉ Builtin.names) :
    m.Shows (programTexts c m) (({ settings } : Session).dispatch c m).2 := by
  unfold programTexts
  cases hf : m.findProgram? c.name none with
  | none =>
    rw [Meaning.dispatch_means settings (.unknown hn hf)]
    exact (Machine.shows_print _ .err (Builtin.append_ne_empty _ (by decide))).later
      (m.note_console _)
  | some file =>
    rw [Meaning.dispatch_means settings (.program hn hf)]
    simp only [Meaning.run, Machine.start_note]
    cases m.start file (c.name :: c.args) with
    | error f =>
      exact (Machine.shows_print _ .err (Builtin.append_ne_empty _ (by decide))).later
        fun stream => (Machine.note_console _ _ stream).trans (m.note_console _ stream)
    | ok started =>
      simp only
      generalize hended : Machine.note _ (.ended file started.2.status) = ended
      have hcore : ended.core = ({ m with disk := started.2.disk } : Machine).core := hended ▸ rfl
      have hconsoles (stream : Stream) : ended.console stream = m.console stream := by
        rw [← hended]
        cases stream <;> rfl
      refine Machine.Shows.later ?_ hconsoles
      have hout := route_shows .out c.out (capturedText started.2.out) ended
      rw [routeTexts_core hcore] at hout
      obtain ⟨r, n, n', hr, hr', hnn⟩ :=
        twin_route core_parallel .out c.out (capturedText started.2.out) _ _ hcore
      rw [hr'] at hout
      simp only [hr]
      cases r with
      | error e =>
        simp only [bind_error hr', List.append_nil]
        exact hout
      | ok _ =>
        have herr := route_shows .err c.err (capturedText started.2.err) n'
        rw [routeTexts_core hnn] at herr
        rw [bind_ok hr', bind_apply]
        refine hout.trans ?_
        rcases hrun : Run.route .err c.err (capturedText started.2.err) n' with ⟨q, k⟩
        rw [hrun] at herr
        cases q <;> exact herr

/-! ## Commands -/

def texts (c : Command) (m : Machine) : List (Stream × String) :=
  match Builtin.deeds.lookup c.name with
  | some deed => builtinTexts c deed m
  | none => programTexts c m

theorem builtinTexts_core {c : Command} {deed : String → Machine → Deed} {m m' : Machine}
    (hl : Builtin.deeds.lookup c.name = some deed) (h : m'.core = m.core) :
    builtinTexts c deed m' = builtinTexts c deed m := by
  have hsame {s s' : Sink} (hs : s.Beside Eq s') : s' = s := by
    obtain ⟨outlet, ho, rfl⟩ := hs
    have houtlet : outlet = s.outlet := by
      generalize s.outlet = before at ho
      cases ho with
      | file hh => rw [hh]
      | _ => rfl
    rw [houtlet]
  unfold builtinTexts
  have hout := Sink.twin_ofTarget core_parallel h .out c.out
  generalize Sink.ofTarget .out c.out m = x, Sink.ofTarget .out c.out m' = x' at hout
  cases hout with
  | error f => rfl
  | @ok opened opened' hopened =>
    obtain ⟨hs, hn⟩ := hopened
    have herr := Sink.twin_ofTarget core_parallel hn .err c.err
    simp only
    generalize Sink.ofTarget .err c.err opened.2 = y, Sink.ofTarget .err c.err opened'.2 = y'
      at herr
    cases herr with
    | error f => rfl
    | @ok last last' hlast =>
      obtain ⟨hs', hn'⟩ := hlast
      have hdeed := deeds_beside core_parallel hl (Command.argText c.args) hn'
      have hdisk : last'.2.disk = last.2.disk := (congrArg Machine.disk hn' :)
      simp only [hsame hs, hsame hs']
      congr 1
      generalize deed (Command.argText c.args) last.2 = d,
        deed (Command.argText c.args) last'.2 = d' at hdeed
      cases hdeed with
      | tells stream text status _ =>
        have hrefusal : Scene.refusal? ⟨last'.2, opened.1, last.1⟩ stream text =
            Scene.refusal? ⟨last.2, opened.1, last.1⟩ stream text := by
          unfold Scene.refusal?
          rw [hdisk]
          cases stream <;> rfl
        simp only [Deed.texts, hrefusal]
      | _ => rfl

theorem programTexts_core {c : Command} {m m' : Machine} (h : m'.core = m.core) :
    programTexts c m' = programTexts c m := by
  unfold programTexts
  rw [Machine.twin_findProgram? core_parallel h]
  cases m.findProgram? c.name none with
  | none => rfl
  | some file =>
    simp only [Machine.start_core h]
    cases m.start file (c.name :: c.args) with
    | error f => rfl
    | ok started =>
      have hcore : ({ m' with disk := started.2.disk } : Machine).core =
          ({ m with disk := started.2.disk } : Machine).core := core_parallel.disk h rfl
      obtain ⟨r, n, n', hr, hr', hn⟩ :=
        twin_route core_parallel .out c.out (capturedText started.2.out) _ _ hcore
      simp only [hr, hr', routeTexts_core hcore]
      cases r with
      | error e => rfl
      | ok _ => simp only [routeTexts_core hn]

theorem texts_core {c : Command} {m m' : Machine} (h : m'.core = m.core) :
    texts c m' = texts c m := by
  unfold texts
  cases hl : Builtin.deeds.lookup c.name with
  | some deed => exact builtinTexts_core hl h
  | none => exact programTexts_core h

theorem dispatch_shows (settings : Settings) (c : Command) (m : Machine) :
    m.Shows (texts c m) (({ settings } : Session).dispatch c m).2 := by
  unfold texts
  rcases Builtin.handlers_deeds c.name with ⟨hh, hl⟩ | ⟨handler, deed, hh, hl, hd⟩
  · rw [hl]
    exact program_shows settings (Builtin.lookup_eq_none.mp hh)
  · have hnoted : builtinTexts c deed (m.note (.builtin c.name c.args)) = builtinTexts c deed m :=
      builtinTexts_core hl rfl
    simp only [hl]
    rw [dispatch_builtin { settings } m hh, ← hnoted]
    exact (runBuiltin_shows hl hd _).later (m.note_console _)

/-! ## Lines -/

def complaints (line : String) : List (Stream × String) :=
  (Line.parse line).errors.map fun message => (.err, message ++ "\n")

/-- What a line prints. -/
def lineTexts (line : String) (m : Machine) : List (Stream × String) :=
  complaints line ++
    match (Line.parse line).command? with
    | .ok (some c) => texts c m
    | _ => []

theorem lineTexts_core {m m' : Machine} (h : m'.core = m.core) (line : String) :
    lineTexts line m' = lineTexts line m := by
  unfold lineTexts
  split
  · rw [texts_core h]
  · rfl

theorem read_shows (line : String) (m : Machine) :
    m.Shows (complaints line) (afterReading line m) := by
  unfold complaints afterReading Extraction.errors
  cases (Line.parse line).waiting with
  | none => exact Machine.shows_nil (m.note_console _)
  | some op =>
    exact (Machine.shows_print _ .err (missingPath_ne op)).later
      fun stream => (Machine.note_console _ _ stream).trans (m.note_console _ stream)

/-- A line prints its texts, and nothing else comes to the consoles. -/
theorem execute_shows (settings : Settings) (line : String) (m : Machine) :
    m.Shows (lineTexts line m) (({ settings } : Session).execute line m).2 := by
  obtain ⟨c?, hc⟩ := command?_ok line
  have hread := read_shows line m
  unfold lineTexts
  rw [hc]
  cases c? with
  | none =>
    simp only [execute_none (read_eq hc m), List.append_nil]
    exact hread
  | some c =>
    rw [execute_some (read_eq hc m)]
    have hdispatch := dispatch_shows settings c (afterReading line m)
    rw [texts_core (afterReading_core line m)] at hdispatch
    exact hread.trans hdispatch

/-! ## Nothing empty is said -/

theorem turnedTexts_ne (f : Fault) : ∀ row ∈ turnedTexts f, row.2 ≠ "" := by
  intro row hrow
  cases f with
  | redirection path reason =>
    obtain rfl := List.mem_singleton.mp hrow
    exact Builtin.append_ne_empty _ (show "\n" ≠ "" by decide)
  | _ => cases hrow

theorem routeTexts_ne (stream : Stream) (t : Target) (text : String) (m : Machine) :
    ∀ row ∈ routeTexts stream t text m, row.2 ≠ "" := by
  intro row hrow
  unfold routeTexts at hrow
  split at hrow
  · split at hrow
    · cases hrow
    · next ht =>
      obtain rfl := List.mem_singleton.mp hrow
      simpa using ht
  · split at hrow
    · obtain rfl := List.mem_singleton.mp hrow
      exact Builtin.append_ne_empty _ (by decide)
    · cases hrow

theorem texts_ne (c : Command) (m : Machine) : ∀ row ∈ texts c m, row.2 ≠ "" := by
  intro row hrow
  unfold texts at hrow
  split at hrow
  · next deed hl =>
    unfold builtinTexts at hrow
    split at hrow
    · exact turnedTexts_ne _ row hrow
    · split at hrow
      · exact turnedTexts_ne _ row hrow
      · exact Deed.texts_ne (Builtin.deeds_mild hl _ _) row (List.mem_filter.mp hrow).1
  · unfold programTexts at hrow
    split at hrow
    · obtain rfl := List.mem_singleton.mp hrow
      exact Builtin.append_ne_empty _ (by decide)
    · split at hrow
      · obtain rfl := List.mem_singleton.mp hrow
        exact Builtin.append_ne_empty _ (by decide)
      · rcases List.mem_append.mp hrow with hrow | hrow
        · exact routeTexts_ne _ _ _ _ row hrow
        · split at hrow
          · exact routeTexts_ne _ _ _ _ row hrow
          · cases hrow

theorem lineTexts_ne (line : String) (m : Machine) : ∀ row ∈ lineTexts line m, row.2 ≠ "" := by
  intro row hrow
  rcases List.mem_append.mp hrow with hrow | hrow
  · obtain ⟨message, -, rfl⟩ := List.mem_map.mp hrow
    exact Builtin.append_ne_empty _ (show "\n" ≠ "" by decide)
  · split at hrow
    · exact texts_ne _ m row hrow
    · cases hrow

end Session

end CommandShell
