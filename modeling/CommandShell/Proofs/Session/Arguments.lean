import CommandShell.Proofs.Session.Captured
import CommandShell.Proofs.Session.Twin

/-!
# What becomes of the arguments of a command

A builtin looks at the text of its arguments. It cannot tell two rows of them apart that make the
same text, and neither can anything that runs it: all that differs is the record that the shell
makes of the command. A program is given the row itself.
-/

open CommandShell.Effect

namespace CommandShell

/-! ## Calls with the same text -/

namespace Call

variable {c : Call} {args : List String} (h : Command.argText args = c.argText)

include h

theorem settle_flattened {handler : Handler} (hr : handler.ReadsText) :
    ({ c with args } : Call).settle handler = c.settle handler := by
  have htold : handler ({ c with args } : Call).toErrand = handler c.toErrand := hr _ _ h
  have hreport : ({ c with args } : Call).report = c.report := by
    funext escape
    cases escape with
    | fault f => cases f <;> rfl
    | _ => rfl
  funext s
  rw [settle, settle, htold, hreport]

theorem run_flattened {handler : Handler} (hh : c.handler? = some handler)
    (hr : handler.ReadsText) (s : Scene) :
    ∃ r c₁ c₂ s', c.run s = (r, c₁, s') ∧ ({ c with args } : Call).run s = (r, c₂, s') := by
  have hh' : ({ c with args } : Call).handler? = some handler := hh
  obtain ⟨⟨r, s'⟩, hs⟩ : ∃ settled, c.settle handler s = settled := ⟨_, rfl⟩
  have hs' : ({ c with args } : Call).settle handler s = (r, s') := by
    rw [settle_flattened h hr, hs]
  obtain ⟨⟨q, s''⟩, hf⟩ : ∃ flushed, flushBoth s' = flushed := ⟨_, rfl⟩
  cases q with
  | ok _ => exact ⟨_, _, _, _, run_flushed hh hs hf, run_flushed hh' hs' hf⟩
  | error e => exact ⟨_, _, _, _, run_unflushed hh hs hf, run_unflushed hh' hs' hf⟩

end Call

namespace Session

variable {c : Command} {args : List String}

theorem visit_flattened (h : Command.argText args = Command.argText c.args) {handler : Handler}
    (hr : handler.ReadsText) (m : Machine) :
    visit { c with args } handler m = visit c handler m := by
  have hbetween (s : Scene) :
      between ({ c with args }.call handler) s = between (c.call handler) s := by
    obtain ⟨r, c₁, c₂, s', hrun, hrun'⟩ :=
      Call.run_flattened (c := c.call handler) h rfl hr s
    have hrun'' : ({ c with args }.call handler).run s = (r, c₂, s') := hrun'
    rw [between, between, hrun, hrun'']
  unfold visit
  simp only [hbetween]

theorem runBuiltin_flattened (h : Command.argText args = Command.argText c.args)
    {handler : Handler} (hr : handler.ReadsText) :
    runBuiltin { c with args } handler = runBuiltin c handler := by
  funext m
  rw [runBuiltin, runBuiltin, visit_flattened h hr]

end Session

/-! ## Records -/

namespace Machine

/-- The second machine is the first but for what was recorded before. -/
def Rerecorded (before before' : Array Event) (m m' : Machine) : Prop :=
  ∃ records, m.events = before ++ records ∧ m' = { m with events := before' ++ records }

theorem rerecorded_parallel (before before' : Array Event) :
    Parallel (Rerecorded before before') Eq Eq where
  files := Disk.parallel_eq
  core := by
    rintro m m' ⟨records, -, rfl⟩
    rfl
  alike := by
    rintro m m' ⟨records, -, rfl⟩
    rfl
  disk := by
    rintro m m' ⟨records, he, rfl⟩ disk _ rfl
    exact ⟨records, he, rfl⟩
  cwd := by
    rintro m m' ⟨records, he, rfl⟩ cwd
    exact ⟨records, he, rfl⟩
  note := by
    rintro m m' ⟨records, he, rfl⟩ e
    refine ⟨records.push e, ?_, ?_⟩
    · rw [note, he, Array.append_push]
    · rw [note, note, Array.append_push]
  print := by
    rintro m m' ⟨records, he, rfl⟩ stream text -
    cases stream <;> exact ⟨records, he, rfl⟩

/-! ## Programs and what they are given -/

variable {m : Machine} {file path : String} {argv : List String} {finished : Finished}

/-- The program that runs for the file at a path, and what a script puts in front of its
arguments. -/
def programAt? (m : Machine) (path : String) : Option (Program × List String) :=
  match m.disk.imageAt (m.programs · |>.isSome) m.cwd scriptLimit path with
  | .error _ => none
  | .ok (image, before) => (m.programs image).map (·, before)

/-- The program that runs when a file is started, whatever arguments it is started with. -/
def programOf? (m : Machine) (file : String) : Option (Program × List String) :=
  (m.startPaths file).findSome? m.programAt?

/-- What a program leaves that is given arguments. The name in front of them gives way to what a
script puts there. -/
def runWith (m : Machine) (program : Program) (before argv : List String) : Finished :=
  program ⟨if before = [] then argv else before ++ argv.drop 1, m.environment, m.cwd⟩ m.disk

theorem execute_program (hnone : m.startError? argv = none) (path : String) :
    (m.programAt? path = none ∧ ∃ e, m.execute path argv = .error e) ∨
      ∃ program before, m.programAt? path = some (program, before) ∧
        m.execute path argv = .ok (m.runWith program before argv) := by
  unfold programAt? execute
  rw [hnone, imageUnless_none]
  cases m.disk.imageAt (m.programs · |>.isSome) m.cwd scriptLimit path with
  | error e => exact .inl ⟨rfl, e, rfl⟩
  | ok found =>
    obtain ⟨image, before⟩ := found
    simp only
    cases m.programs image with
    | none => exact .inl ⟨rfl, .notExecutable, rfl⟩
    | some program =>
      refine .inr ⟨program, before, rfl, ?_⟩
      simp only [runWith, List.isEmpty_iff]

theorem execute_refused {e : Errno} (he : m.startError? argv = some e) (path : String) :
    ∃ e', m.execute path argv = .error e' := by
  cases hrun : m.disk.runnableAt m.cwd path with
  | error e' => exact ⟨e', by rw [execute, imageUnless_error hrun]⟩
  | ok content => exact ⟨e, execute_unless hrun he⟩

theorem startFirst_ok_iff {paths : List String} {last : Errno} {saved? : Option Errno} :
    (∃ path, m.startFirst argv last saved? paths = .ok (path, finished)) ↔
      m.startError? argv = none ∧ ∃ program before,
        paths.findSome? m.programAt? = some (program, before) ∧
          finished = m.runWith program before argv := by
  induction paths generalizing last saved? with
  | nil => simp [startFirst]
  | cons first rest ih =>
    unfold startFirst
    cases hnone : m.startError? argv with
    | some e =>
      obtain ⟨e', hrun⟩ := execute_refused hnone first
      simp only [hrun, ih, hnone, reduceCtorEq, false_and]
    | none =>
      rcases execute_program hnone first with ⟨hfirst, e, hrun⟩ | ⟨program, before, hfirst, hrun⟩
      · simp only [hrun, ih, hnone, List.findSome?_cons, hfirst]
      · simp [hrun, hfirst, eq_comm]

theorem start_ok_iff :
    (∃ path, m.start file argv = .ok (path, finished)) ↔
      (∀ arg ∈ argv, '\x00' ∉ arg.toList) ∧ m.startError? argv = none ∧ ∃ program before,
        m.programOf? file = some (program, before) ∧ finished = m.runWith program before argv := by
  have hargs : argv.any (!Disk.isPathText ·) = false ↔ ∀ arg ∈ argv, '\x00' ∉ arg.toList := by
    simp [isPathText_iff]
  have hfirst : (∃ path, m.startFirst argv .noEntry none (m.startPaths file) =
      .ok (path, finished)) ↔ _ := startFirst_ok_iff
  rw [programOf?, ← hfirst, ← hargs, start]
  cases argv.any (!Disk.isPathText ·) with
  | true => simp
  | false =>
    simp only [Bool.false_eq_true, if_false, true_and]
    cases m.startFirst argv .noEntry none (m.startPaths file) <;> simp

end Machine

/-! ## Commands -/

namespace Session

variable {c : Command}

theorem dispatch_builtin_flattened (settings : Settings) (hname : c.name ∈ Builtin.names)
    {args : List String} (h : Command.argText args = Command.argText c.args) (m : Machine) :
    ∃ (r : Except Escape Int) (after : Machine) (records : Array Event),
      ({ settings } : Session).dispatch c m =
        (r, { after with events := m.events.push (.builtin c.name c.args) ++ records }) ∧
      ({ settings } : Session).dispatch { c with args } m =
        (r, { after with events := m.events.push (.builtin c.name args) ++ records }) := by
  cases hh : Builtin.handlers.lookup c.name with
  | none => exact absurd hname (Builtin.lookup_eq_none.mp hh)
  | some handler =>
    have hR := Machine.rerecorded_parallel (m.events.push (.builtin c.name c.args))
      (m.events.push (.builtin c.name args))
    have hnoted : Machine.Rerecorded (m.events.push (.builtin c.name c.args))
        (m.events.push (.builtin c.name args)) (m.note (.builtin c.name c.args))
        (m.note (.builtin c.name args)) :=
      ⟨#[], Array.append_empty.symm, by rw [Array.append_empty]; rfl⟩
    obtain ⟨r, n, n', hn, hn', records, hrecords, rfl⟩ :=
      twin_runBuiltin hR hnoted (builtin_twin hR hh) c
    refine ⟨r, n, records, ?_, ?_⟩
    · rw [dispatch_builtin { settings } m hh, hn, ← hrecords]
    · rw [dispatch_builtin { settings } (c := { c with args }) m hh,
        runBuiltin_flattened h (Builtin.handlers_readText hh), hn']

theorem dispatch_started (settings : Settings) {m : Machine} {file path : String}
    {finished : Finished} (hname : c.name ∉ Builtin.names)
    (hf : m.findProgram? c.name none = some file)
    (hs : m.start file (c.name :: c.args) = .ok (path, finished)) :
    ∃ ended, m.Captures c finished ended ∧ ({ settings } : Session).dispatch c m = (do
      Run.route .out c.out (capturedText finished.out)
      Run.route .err c.err (capturedText finished.err)
      return finished.status : Run Int) ended := by
  have hs' : ((m.note (.external c.name c.args)).note (.resolved c.name file)).start file
      (c.name :: c.args) = .ok (path, finished) := by
    rw [Machine.start_note, Machine.start_note, hs]
  have hcaptures := Machine.Captures.ended (.program hname hf) rfl hs'
  exact ⟨_, hcaptures, dispatch_captures settings hcaptures⟩

/-- A builtin looks at the text of its arguments, whatever row of them made it: what is run between
its sinks, its result and what it leaves on the machine are the same for two rows of one text. A
program has the row: it is started with the name of the command and its arguments, each as it is. -/
theorem dispatch_arguments (settings : Settings) (c : Command) (m : Machine) :
    let sh : Session := { settings }
    (c.name ∈ Builtin.names → ∀ args, Command.argText args = Command.argText c.args →
      (∀ handler, Builtin.handlers.lookup c.name = some handler → handler.ReadsText) ∧
      (∀ handler : Handler, handler.ReadsText → ∀ n,
        visit { c with args } handler n = visit c handler n) ∧
      ∃ (r : Except Escape Int) (after : Machine) (records : Array Event),
        sh.dispatch c m =
          (r, { after with events := m.events.push (.builtin c.name c.args) ++ records }) ∧
        sh.dispatch { c with args } m =
          (r, { after with events := m.events.push (.builtin c.name args) ++ records })) ∧
    (c.name ∉ Builtin.names → ∀ file, m.findProgram? c.name none = some file → ∀ finished,
      ((∃ path, m.start file (c.name :: c.args) = .ok (path, finished)) ↔
        (∀ arg ∈ c.name :: c.args, '\x00' ∉ arg.toList) ∧
          m.startError? (c.name :: c.args) = none ∧ ∃ program before,
          m.programOf? file = some (program, before) ∧
          finished = program ⟨if before = [] then c.name :: c.args else before ++ c.args,
            m.environment, m.cwd⟩ m.disk) ∧
      ∀ path, m.start file (c.name :: c.args) = .ok (path, finished) →
        ∃ ended, m.Captures c finished ended ∧ sh.dispatch c m = (do
          Run.route .out c.out (capturedText finished.out)
          Run.route .err c.err (capturedText finished.err)
          return finished.status : Run Int) ended) := by
  refine ⟨fun hname args h => ⟨fun _ => Builtin.handlers_readText,
    fun handler hr n => visit_flattened h hr n, dispatch_builtin_flattened settings hname h m⟩,
    fun hname file hf finished => ⟨Machine.start_ok_iff, fun path hs => ?_⟩⟩
  exact dispatch_started settings hname hf hs

def counter : Program := fun invocation disk => ⟨invocation.argv.length, [], [], disk⟩

def countingMachine : Machine where
  disk := ⟨#[
    .directory Disk.root [("count", 1)],
    .regular [] 0o755]⟩
  environment := ⟨[("PATH", "/")]⟩
  programs := fun _ => some counter

theorem dispatch_arguments_counted :
    (({} : Session).dispatch { name := "echo", args := ["a ", "b"] } countingMachine).2.out =
        (({} : Session).dispatch { name := "echo", args := ["a", "", "b"] } countingMachine).2.out ∧
      (({} : Session).dispatch { name := "count", args := ["a", "", "b"] } countingMachine).1 =
        .ok 4 ∧
      (({} : Session).dispatch { name := "count", args := ["a ", "b"] } countingMachine).1 =
        .ok 3 := by
  have hname : "count" ∉ Builtin.names := by decide
  have hfile : countingMachine.findProgram? "count" none = some "/count" := rfl
  have hcount (args : List String) (hargs : ∀ arg ∈ "count" :: args, '\x00' ∉ arg.toList)
      (hstart : countingMachine.startError? ("count" :: args) = none) :
      (({} : Session).dispatch { name := "count", args } countingMachine).1 =
        .ok (args.length + 1) := by
    obtain ⟨-, hprogram⟩ := dispatch_arguments {} { name := "count", args } countingMachine
    obtain ⟨hstarts, hroutes⟩ := hprogram hname "/count" hfile
      (countingMachine.runWith counter [] ("count" :: args))
    obtain ⟨path, hstart⟩ := hstarts.mpr ⟨hargs, hstart, counter, [], rfl, rfl⟩
    obtain ⟨ended, -, hdispatch⟩ := hroutes path hstart
    rw [hdispatch]
    rfl
  obtain ⟨hbuiltin, -⟩ :=
    dispatch_arguments {} { name := "echo", args := ["a", "", "b"] } countingMachine
  obtain ⟨-, -, r, after, records, hwide, hnarrow⟩ :=
    hbuiltin (by decide) ["a ", "b"] (by decide +kernel)
  rw [hwide, hnarrow]
  exact ⟨rfl, hcount ["a", "", "b"] (by decide) rfl, hcount ["a ", "b"] (by decide) rfl⟩

end Session

end CommandShell
