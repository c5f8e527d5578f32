import CommandShell.Proofs.Session.Twin

/-!
# Moves

The working directory is moved by `cd` alone, to the directory that its arguments named before the
line was run, and only when it returns zero. A `cd` that stays says why.
-/

open CommandShell.Effect

namespace CommandShell

def Errno.refusal (e : Errno) : String :=
  if e = .noEntry then "No such file or directory"
  else if e = .accessDenied ∨ e = .notPermitted then "Permission denied"
  else e.text

def cdReport (path reason : String) : String := s!"cd: {path}: {reason}\n"

namespace Machine

/-- The directory that `cd` means by its arguments. -/
def named? (m : Machine) (args : String) : Option Ino :=
  match m.resolve args none with
  | .ok path => m.disk.directoryAt? m.cwd path
  | .error _ => none

/-- What `cd` comes to: the path and the directory that it enters, or what it has to report. -/
def course (m : Machine) (args : String) : Except String (String × Ino) :=
  if args = "" then .error "Usage: cd <directory>\n"
  else match m.resolve args none with
    | .error f => .error s!"Error executing 'cd': {f.message}\n"
    | .ok path =>
      match m.disk.directoryAt? m.cwd path with
      | none => .error (cdReport path "No such file or directory")
      | some i =>
        match m.chdirError with
        | some e => .error (cdReport path e.refusal)
        | none => .ok (path, i)

/-- A machine that took a course, with the sink for a report. -/
def take (m : Machine) (err : Sink) : Except String (String × Ino) → Except Escape Int × Machine
  | .ok (path, i) => (.ok 0, { m with cwd := i }.note (.moved path))
  | .error report => (.ok 1, err.deliver report m)

variable {m : Machine} {args : String}

theorem course_named {path : String} {i : Ino} (h : m.course args = .ok (path, i)) :
    m.named? args = some i := by
  unfold course at h
  unfold named?
  split at h
  · cases h
  · cases hr : m.resolve args none with
    | error f => simp [hr] at h
    | ok path' =>
      cases hd : m.disk.directoryAt? m.cwd path' with
      | none => simp [hr, hd] at h
      | some j =>
        cases hc : m.chdirError with
        | some e => simp [hr, hd, hc] at h
        | none =>
          simp only [hr, hd, hc, Except.ok.injEq, Prod.mk.injEq] at h
          simp [hd, h.2]

/-! ## What `cd` does -/

theorem noEntry_text : Errno.noEntry.text = "No such file or directory" := by
  simp [Errno.text, Errno.texts, Errno.noEntry]

theorem accessDenied_text : Errno.accessDenied.text = "Permission denied" := by
  simp [Errno.text, Errno.texts, Errno.accessDenied]

theorem refused_reason (path : String) (e : Errno) :
    (Move.refused path e).isOk = false ∧ (Move.refused path e).path = path ∧
      (Move.refused path e).reason = e.refusal := by
  by_cases hn : e = .noEntry
  · have hstatus : MoveStatus.ofErrno e = .notFound := if_pos hn
    have hmove : Move.refused path e = ⟨.notFound, path, ""⟩ := by rw [Move.refused, hstatus]
    rw [hmove, Errno.refusal, if_pos hn]
    exact ⟨rfl, rfl, noEntry_text⟩
  · by_cases hd : e = .accessDenied ∨ e = .notPermitted
    · have hstatus : MoveStatus.ofErrno e = .denied := by simp [MoveStatus.ofErrno, hn, hd]
      have hmove : Move.refused path e = ⟨.denied, path, ""⟩ := by rw [Move.refused, hstatus]
      rw [hmove, Errno.refusal, if_neg hn, if_pos hd]
      exact ⟨rfl, rfl, accessDenied_text⟩
    · have hstatus : MoveStatus.ofErrno e = .other := by simp [MoveStatus.ofErrno, hn, hd]
      have hmove : Move.refused path e = ⟨.other, path, e.text⟩ := by rw [Move.refused, hstatus]
      rw [hmove, Errno.refusal, if_neg hn, if_neg hd]
      exact ⟨rfl, rfl, by simp only [Move.reason]⟩

theorem changeDirectory_missing {path : String} (h : m.disk.directoryAt? m.cwd path = none) :
    m.changeDirectory path = (⟨.notFound, path, ""⟩, m) := by
  simp [changeDirectory, Disk.hasDirectory_eq, h]

theorem changeDirectory_refused {path : String} {i : Ino} {e : Errno}
    (h : m.disk.directoryAt? m.cwd path = some i) (hc : m.chdirError = some e) :
    m.changeDirectory path = (Move.refused path e, m) := by
  simp [changeDirectory, Disk.hasDirectory_eq, h, enter, hc]

theorem changeDirectory_moved {path : String} {i : Ino}
    (h : m.disk.directoryAt? m.cwd path = some i) (hc : m.chdirError = none) :
    m.changeDirectory path = (⟨.moved, path, ""⟩, { m with cwd := i }.note (.moved path)) := by
  obtain ⟨-, hl, hi⟩ := Disk.directoryAt?_eq_some h
  simp [changeDirectory, Disk.hasDirectory_eq, h, enter, hc, hl, hi]

theorem resolve_error {path : String} {f : Fault} (h : m.resolve path none = .error f) :
    f = .system .noEntry none := by
  unfold resolve resolve.here cwdPath at h
  split at h
  · cases h
  · split at h
    · cases h
    · cases hp : m.disk.pathOf? m.cwd with
      | none =>
        simp only [hp] at h
        cases h
        rfl
      | some cwd =>
        simp only [hp] at h
        cases h

theorem cdDeed_course (m : Machine) (args : String) :
    (∃ path i, m.course args = .ok (path, i) ∧
      Builtin.cdDeed args m = .silent 0 ({ m with cwd := i }.note (.moved path))) ∨
      ∃ report, m.course args = .error report ∧
        (Builtin.cdDeed args m = .tells .err report 1 m ∨
          ∃ f, Builtin.cdDeed args m = .fails f ∧
            ∀ c : Call, c.name = "cd" → c.reportText f = report) := by
  by_cases hempty : args = ""
  · have husage : "Usage: cd <directory>" ++ "\n" = "Usage: cd <directory>\n" := by decide
    refine Or.inr ⟨"Usage: cd <directory>\n", if_pos hempty, Or.inr
      ⟨.usage "Usage: cd <directory>", if_pos (by simpa using hempty), fun c _ => husage⟩⟩
  · cases hr : m.resolve args none with
    | error f =>
      refine Or.inr ⟨s!"Error executing 'cd': {f.message}\n", by simp [course, hempty, hr],
        Or.inr ⟨f, by simp [Builtin.cdDeed, hempty, hr], fun c hc => ?_⟩⟩
      have hstart : "Error executing '" ++ "cd" ++ "': " = "Error executing 'cd': " := by decide
      have htext : c.reportText (.system .noEntry none) =
          "Error executing '" ++ c.name ++ "': " ++ (Fault.system .noEntry none).message ++ "\n" :=
        rfl
      rw [resolve_error hr, htext, hc, hstart]
      rfl
    | ok path =>
      cases hd : m.disk.directoryAt? m.cwd path with
      | none =>
        refine Or.inr ⟨cdReport path "No such file or directory", by simp [course, hempty, hr, hd],
          Or.inl ?_⟩
        simp [Builtin.cdDeed, hempty, hr, changeDirectory_missing hd, Move.isOk, Move.reason,
          noEntry_text, cdReport]
      | some i =>
        rcases Option.eq_none_or_eq_some m.chdirError with hc | ⟨e, hc⟩
        · refine Or.inl ⟨path, i, by simp [course, hempty, hr, hd, hc], ?_⟩
          rw [Builtin.cdDeed, if_neg (by simpa using hempty), hr]
          simp only [changeDirectory_moved hd hc]
          rfl
        · obtain ⟨hok, hpath, hreason⟩ := refused_reason path e
          refine Or.inr ⟨cdReport path e.refusal, by simp [course, hempty, hr, hd, hc], Or.inl ?_⟩
          simp [Builtin.cdDeed, hempty, hr, changeDirectory_refused hd hc, hok, hpath, hreason,
            cdReport]

/-! ## What `cd` sees -/

theorem resolve_disk {d : Disk} (h : d.pathOf? m.cwd = m.disk.pathOf? m.cwd) (path : String) :
    ({ m with disk := d } : Machine).resolve path none = m.resolve path none := by
  simp only [resolve, resolve.here, cwdPath, h]

theorem ofTarget_course {stream : Stream} {t : Target} {s : Sink} {m' : Machine}
    (h : Sink.ofTarget stream t m = .ok (s, m')) (args : String) :
    m'.named? args = m.named? args ∧ m'.course args = m.course args := by
  unfold Sink.ofTarget Sink.toFile at h
  split at h
  · cases h
    exact ⟨rfl, rfl⟩
  · split at h
    · cases h
    · split at h
      · next handle disk ho =>
        cases h
        obtain ⟨i, hopen, -⟩ := Handle.openAt_ok ho
        have hways := Disk.open_ways hopen
        simp only [named?, course, resolve_disk (hways.pathOf? m.cwd), hways.directoryAt?, and_self]
      · cases h

theorem core_course {m' : Machine} (h : m'.core = m.core) (args : String) :
    m'.named? args = m.named? args ∧ m'.course args = m.course args :=
  ⟨(congrArg (named? · args) h :), (congrArg (course · args) h :)⟩

end Machine

namespace Session

section Opened

variable {c : Command} {m m₁ m₂ : Machine} {out err : Sink} (hc : c.name = "cd")
  (ho : Sink.ofTarget .out c.out m = .ok (out, m₁))
  (he : Sink.ofTarget .err c.err m₁ = .ok (err, m₂))

include hc ho he

theorem runBuiltin_cd :
    runBuiltin c Builtin.cd m = m₂.take err (m.course (Command.argText c.args)) ∨
      ∃ e, err.writeError? m₂.disk = some e ∧
        (∃ report, m.course (Command.argText c.args) = .error report) ∧
        (runBuiltin c Builtin.cd m).1 = .error (.fault (.system e none)) ∧
        m₂.Framed (runBuiltin c Builtin.cd m).2 := by
  have hsees : m₂.course (Command.argText c.args) = m.course (Command.argText c.args) :=
    (Machine.ofTarget_course he _).2.trans (Machine.ofTarget_course ho _).2
  have hmild := @Builtin.deeds_mild "cd" _ rfl (Command.argText c.args) m₂
  rw [← hsees]
  rcases Machine.cdDeed_course m₂ (Command.argText c.args) with
    ⟨path, i, hcourse, hdeed⟩ | ⟨report, hcourse, hdeed⟩
  · left
    rw [hcourse]
    exact runBuiltin_silent ho he Builtin.cd_does hdeed
  · rw [hcourse]
    cases hfails : err.writeError? m₂.disk with
    | some e =>
      refine Or.inr ⟨e, rfl, ⟨report, rfl⟩, ?_, ?_⟩
      · have hends := visit_deed Builtin.cd_does
          (fun _ _ => @Builtin.deeds_mild "cd" _ rfl _ _) ho he
        rw [Sink.ofTarget_writeError he] at hfails
        rcases hdeed with hdeed | ⟨f, hdeed, -⟩
        all_goals
          rw [hdeed, hfails] at hends
          exact hends
      · have hframed := runBuiltin_opened Builtin.cd_does hmild ho he
        rcases hdeed with hdeed | ⟨f, hdeed, -⟩
        all_goals
          rw [hdeed] at hframed
          exact hframed
    | none =>
      left
      rcases hdeed with hdeed | ⟨f, hdeed, htext⟩
      · exact runBuiltin_tells ho he Builtin.cd_does hdeed hmild hfails
      · rw [runBuiltin_fails ho he Builtin.cd_does hdeed hfails, htext (c.call Builtin.cd) hc]
        rfl

end Opened

/-! ## One line -/

variable (settings : Settings)

def CanOpen (c : Command) (line : String) (m : Machine) : Prop :=
  ∃ out m₁ err m₂,
    Sink.ofTarget .out c.out ((read line m).2.note (.builtin c.name c.args)) = .ok (out, m₁) ∧
      Sink.ofTarget .err c.err m₁ = .ok (err, m₂)

theorem execute_moves (line : String) (m : Machine) :
    let sh : Session := { settings }
    (∃ c path i, (Line.parse line).command? = .ok (some c) ∧ c.name = "cd" ∧
        CanOpen c line m ∧ m.course (Command.argText c.args) = .ok (path, i) ∧
        m.named? (Command.argText c.args) = some i ∧
        (sh.execute line m).1 = .ok 0 ∧ (sh.execute line m).2.cwd = i) ∨
      (∀ c, (Line.parse line).command? = .ok (some c) → c.name = "cd" →
          (sh.execute line m).1 ≠ .ok 0) ∧
        (sh.execute line m).2.cwd = m.cwd := by
  intro sh
  have hstays {m' : Machine} (h : m.Framed m') : m'.cwd = m.cwd := by
    rw [← h]
  by_cases hcd : ∃ c, (Line.parse line).command? = .ok (some c) ∧ c.name = "cd"
  · obtain ⟨c, hparse, hname⟩ := hcd
    have hr := read_eq hparse m
    have hcore := afterReading_core line m
    have hread := afterReading_framed line m
    generalize afterReading line m = m' at hr hcore hread
    have hnoted : m.Framed (m'.note (.builtin c.name c.args)) := hread.trans (keeps_note _ m')
    have hcore' : (m'.note (.builtin c.name c.args)).core = m.core := hcore
    have hsame := Machine.core_course hcore' (Command.argText c.args)
    have hunique (c' : Command) (h : (Line.parse line).command? = .ok (some c')) : c' = c := by
      cases hparse.symm.trans h
      rfl
    have hlookup : sh.handlers.lookup c.name = some Builtin.cd := by rw [hname]; rfl
    rw [execute_some hr, dispatch_builtin sh m' hlookup]
    rcases targets_opened c (m'.note (.builtin c.name c.args)) with
      ⟨out, m₁, err, m₂, ho, he⟩ | ⟨f, hf⟩
    · have hopened := hnoted.trans (opened_framed ho he)
      rcases runBuiltin_cd hname ho he with hrun | ⟨e, _, _, hr, hframed⟩
      · rw [hrun, hsame.2]
        cases hcourse : m.course (Command.argText c.args) with
        | ok taken =>
          have hopen : CanOpen c line m := by
            rw [CanOpen, hr]
            exact ⟨out, m₁, err, m₂, ho, he⟩
          exact Or.inl ⟨c, taken.1, taken.2, hparse, hname, hopen, hcourse,
            Machine.course_named hcourse, rfl, rfl⟩
        | error report =>
          refine Or.inr ⟨fun _ _ _ h => ?_, hstays (hopened.trans (Sink.framed_deliver err _ m₂))⟩
          cases h
      · refine Or.inr ⟨fun _ _ _ h => ?_, hstays (hopened.trans hframed)⟩
        rw [hr] at h
        cases h
    · obtain ⟨hframed, hr⟩ := runBuiltin_turned Builtin.cd hf
      refine Or.inr ⟨fun _ _ _ h => ?_, hstays (hnoted.trans hframed)⟩
      rcases hr with hr | hr
      all_goals
        rw [hr] at h
        cases h
  · have hn : ∀ c, (Line.parse line).command? = .ok (some c) → c.name ≠ "cd" :=
      fun c hc hname => hcd ⟨c, hc, hname⟩
    exact Or.inr ⟨fun c hc hname => absurd hname (hn c hc),
      hstays (execute_framed settings hn m)⟩

theorem execute_cd {line : String} {m m₁ m₂ : Machine} {c : Command} {out err : Sink}
    (hparse : (Line.parse line).command? = .ok (some c)) (hname : c.name = "cd")
    (ho : Sink.ofTarget .out c.out ((read line m).2.note (.builtin c.name c.args)) = .ok (out, m₁))
    (he : Sink.ofTarget .err c.err m₁ = .ok (err, m₂)) (htakes : err.writeError? m₂.disk = none) :
    ({ settings } : Session).execute line m =
      m₂.take err (m.course (Command.argText c.args)) := by
  have hr := read_eq hparse m
  have hcore := afterReading_core line m
  generalize afterReading line m = m' at hr hcore
  rw [hr] at ho
  have hcore' : (m'.note (.builtin c.name c.args)).core = m.core := hcore
  have hsame := Machine.core_course hcore' (Command.argText c.args)
  have hlookup : ({ settings } : Session).handlers.lookup c.name = some Builtin.cd := by
    rw [hname]
    rfl
  rw [execute_some hr, dispatch_builtin { settings } m' hlookup, ← hsame.2]
  rcases runBuiltin_cd hname ho he with hrun | ⟨e, hfails, -⟩
  · exact hrun
  · cases htakes.symm.trans hfails

/-! ## Many lines -/

/-- A line to be run, and the error with which the system refuses every move on the way. -/
structure Step where
  line : String
  chdirError : Option Errno := none

def step (sh : Session) (s : Step) (m : Machine) : Except Escape Int × Machine :=
  sh.execute s.line { m with chdirError := s.chdirError }

def after (sh : Session) : List Step → Machine → Machine
  | [], m => m
  | s :: rest, m => sh.after rest (sh.step s m).2

/-- The directory that the `cd` of a step named, if it returned zero. -/
def entered? (sh : Session) (s : Step) (m : Machine) : Option Ino :=
  match (Line.parse s.line).command?, (sh.step s m).1 with
  | .ok (some c), .ok 0 => if c.name = "cd" then m.named? (Command.argText c.args) else none
  | _, _ => none

/-- The directories that were entered on the way. -/
def trail (sh : Session) : List Step → Machine → List Ino
  | [], _ => []
  | s :: rest, m => (sh.entered? s m).toList ++ sh.trail rest (sh.step s m).2

theorem entered_cd {sh : Session} {s : Step} {m : Machine} {c : Command}
    (hparse : (Line.parse s.line).command? = .ok (some c)) (hname : c.name = "cd")
    (hr : (sh.step s m).1 = .ok 0) :
    sh.entered? s m = m.named? (Command.argText c.args) := by
  rw [entered?, hparse, hr]
  exact if_pos hname

theorem entered_none {sh : Session} {s : Step} {m : Machine}
    (h : ∀ c, (Line.parse s.line).command? = .ok (some c) → c.name = "cd" →
      (sh.step s m).1 ≠ .ok 0) :
    sh.entered? s m = none := by
  unfold entered?
  split
  · next c hparse hr => exact if_neg fun hname => h c hparse hname hr
  · rfl

theorem step_moves (s : Step) (m : Machine) :
    (({ settings } : Session).step s m).2.cwd =
      (({ settings } : Session).entered? s m).getD m.cwd := by
  rcases execute_moves settings s.line { m with chdirError := s.chdirError } with
    ⟨c, path, i, hparse, hname, -, -, hnamed, hr, hcwd⟩ | ⟨hr, hcwd⟩
  · rw [entered_cd hparse hname hr, show m.named? _ = some i from hnamed, step, hcwd]
    rfl
  · rw [entered_none hr, step, hcwd]
    rfl

theorem after_trail (steps : List Step) (m : Machine) :
    (({ settings } : Session).after steps m).cwd =
      (({ settings } : Session).trail steps m).getLast?.getD m.cwd := by
  induction steps generalizing m with
  | nil => rfl
  | cons s rest ih =>
    rw [after, trail, ih, step_moves]
    cases ({ settings } : Session).entered? s m with
    | none => rfl
    | some i =>
      cases hrest : ({ settings } : Session).trail rest (({ settings } : Session).step s m).2 with
      | nil => rfl
      | cons j js => simp [List.getLast?_cons]

/-- The working directory is moved by a `cd` that returns zero, to the directory that its arguments
named before, and by nothing else, on one line and on any number of them. A `cd` whose sinks can be
opened and written moves there, or returns one with one report on its error sink. -/
theorem directory_moves :
    let sh : Session := { settings }
    (∀ line m,
      (∃ c path i, (Line.parse line).command? = .ok (some c) ∧ c.name = "cd" ∧
          CanOpen c line m ∧ m.course (Command.argText c.args) = .ok (path, i) ∧
          m.named? (Command.argText c.args) = some i ∧
          (sh.execute line m).1 = .ok 0 ∧ (sh.execute line m).2.cwd = i) ∨
        (∀ c, (Line.parse line).command? = .ok (some c) → c.name = "cd" →
            (sh.execute line m).1 ≠ .ok 0) ∧
          (sh.execute line m).2.cwd = m.cwd) ∧
    (∀ steps m, (sh.after steps m).cwd = (sh.trail steps m).getLast?.getD m.cwd) ∧
    ∀ {line m c out m₁ err m₂}, (Line.parse line).command? = .ok (some c) → c.name = "cd" →
      Sink.ofTarget .out c.out ((read line m).2.note (.builtin c.name c.args)) = .ok (out, m₁) →
      Sink.ofTarget .err c.err m₁ = .ok (err, m₂) →
      err.writeError? m₂.disk = none →
      sh.execute line m = m₂.take err (m.course (Command.argText c.args)) :=
  ⟨execute_moves settings, after_trail settings,
    fun hparse hname ho he htakes => execute_cd settings hparse hname ho he htakes⟩

def deniedMachine : Machine where
  disk := ⟨#[.directory Disk.root [("d", 1)], .directory Disk.root []]⟩
  chdirError := some .accessDenied

theorem directory_moves_denied :
    (({} : Session).execute "cd d" deniedMachine).1 = .ok 1 ∧
      (({} : Session).execute "cd d" deniedMachine).2.err.text = "cd: /d: Permission denied\n" ∧
      (({} : Session).execute "cd d" deniedMachine).2.out.text = "" ∧
      (({} : Session).after [⟨"cd d", some .accessDenied⟩, ⟨"cd d", none⟩] deniedMachine).cwd =
        1 := by
  obtain ⟨-, hafter, hcd⟩ := directory_moves {}
  have hparse : (Line.parse "cd d").command? = .ok (some { name := "cd", args := ["d"] }) := rfl
  have hrun := hcd (m := deniedMachine) hparse rfl rfl rfl rfl
  rw [hrun, hafter]
  exact ⟨by decide +kernel, by decide +kernel, by decide +kernel, by decide +kernel⟩

end Session

end CommandShell
