import CommandShell.Proofs.Session.Meaning
import Mathlib.Data.List.Forall2

/-!
# Programs that cannot be started

A program that is not found, or that cannot be started, leaves one report on the console and nothing
else. Its targets are not opened, whatever they are.
-/

open CommandShell.Effect

namespace CommandShell

namespace Machine

variable {m : Machine} {file : String} {argv : List String}

/-! ## Why a program does not start -/

/-- The error that counts when a file was tried under several paths: the first that does not just say
that there is no such file, or else the last. -/
def countedError (errors : List Errno) : Errno :=
  (errors.find? fun e => e ≠ .noEntry ∧ e ≠ .notDirectory).getD (errors.getLastD .noEntry)

def AllRefused (m : Machine) (argv : List String) (paths : List String) (errors : List Errno) :
    Prop :=
  List.Forall₂ (fun path e => m.execute path argv = .error e) paths errors

/-- What keeps a program from being started with the arguments, as it is reported. -/
inductive Refuses (m : Machine) (file : String) (argv : List String) : String → Prop
  | argument {arg : String} : arg ∈ argv → '\x00' ∈ arg.toList →
      Refuses m file argv "embedded null byte"
  | system {errors : List Errno} : (∀ arg ∈ argv, '\x00' ∉ arg.toList) →
      m.AllRefused argv (m.startPaths file) errors → Refuses m file argv (countedError errors).text

theorem startFirst_error {paths : List String} {last e : Errno} {saved? : Option Errno} :
    m.startFirst argv last saved? paths = .error e ↔
      ∃ errors, m.AllRefused argv paths errors ∧
        e = (saved? <|> errors.find? fun e => e ≠ .noEntry ∧ e ≠ .notDirectory).getD
          (errors.getLastD last) := by
  induction paths generalizing last saved? with
  | nil =>
    simp only [startFirst, AllRefused, List.forall₂_nil_left_iff, exists_eq_left]
    simp [eq_comm]
  | cons path rest ih =>
    unfold startFirst
    cases hrun : m.execute path argv with
    | ok finished => simp [AllRefused, List.forall₂_cons_left_iff, hrun]
    | error first =>
      -- An error that only says that there is no such file is saved for no other path.
      have hsaved (errors : List Errno) :
          ((if first = .noEntry || first = .notDirectory then saved? else saved? <|> some first) <|>
            errors.find? fun e => e ≠ .noEntry ∧ e ≠ .notDirectory) =
          (saved? <|> (first :: errors).find? fun e => e ≠ .noEntry ∧ e ≠ .notDirectory) := by
        by_cases hnone : first = .noEntry ∨ first = .notDirectory
        · rw [if_pos (by simpa using hnone), List.find?_cons_of_neg]
          simpa only [decide_eq_true_eq, ne_eq, not_and_or, not_not] using hnone
        · rw [if_neg (by simpa using hnone), List.find?_cons_of_pos]
          · cases saved? <;> rfl
          · simpa only [decide_eq_true_eq, ne_eq, not_or] using hnone
      simp only [ih, hsaved]
      constructor
      · rintro ⟨errors, hrest, he⟩
        exact ⟨first :: errors, .cons hrun hrest, by rw [he, List.getLastD_cons]⟩
      · rintro ⟨_, _ | ⟨hfirst, hrest⟩, he⟩
        cases hrun.symm.trans hfirst
        exact ⟨_, hrest, by rw [he, List.getLastD_cons]⟩

theorem start_error_iff {f : Fault} :
    m.start file argv = .error f ↔ ∃ reason, f = .start reason ∧ m.Refuses file argv reason := by
  by_cases hargs : ∀ arg ∈ argv, '\x00' ∉ arg.toList
  · have htexts : argv.any (!Disk.isPathText ·) = false := by
      rw [List.any_eq_false]
      intro arg harg
      simpa using isPathText_iff.mpr (hargs arg harg)
    have hfirst (e : Errno) : m.startFirst argv .noEntry none (m.startPaths file) = .error e ↔
        ∃ errors, m.AllRefused argv (m.startPaths file) errors ∧ e = countedError errors :=
      startFirst_error
    rw [start, htexts]
    simp only [Bool.false_eq_true, if_false]
    constructor
    · intro h
      split at h
      · cases h
      · next e he =>
        obtain ⟨errors, hrefused, rfl⟩ := (hfirst e).mp he
        cases h
        exact ⟨_, rfl, .system hargs hrefused⟩
    · rintro ⟨_, rfl, hrefuses⟩
      cases hrefuses with
      | argument harg hnull => exact absurd hnull (hargs _ harg)
      | system _ hrefused => rw [(hfirst _).mpr ⟨_, hrefused, rfl⟩]
  · obtain ⟨arg, harg, hnull⟩ : ∃ arg ∈ argv, '\x00' ∈ arg.toList := by simpa using hargs
    have htext : Disk.isPathText arg = false := by
      rw [← Bool.not_eq_true, isPathText_iff, not_not]
      exact hnull
    have htexts : argv.any (!Disk.isPathText ·) = true :=
      List.any_eq_true.mpr ⟨arg, harg, by rw [htext]; rfl⟩
    rw [start, htexts, if_pos rfl]
    constructor
    · intro h
      cases h
      exact ⟨_, rfl, .argument harg hnull⟩
    · rintro ⟨_, rfl, hrefuses⟩
      cases hrefuses with
      | argument => rfl
      | system hall _ => exact absurd hall hargs

/-- Any error of the system can be the one that keeps a file from being started. -/
theorem refuses_startError {content : Bytes} {e : Errno} (hslash : '/' ∈ file.toList)
    (hargs : ∀ arg ∈ argv, '\x00' ∉ arg.toList)
    (hrun : m.disk.runnableAt m.cwd file = .ok content) (he : m.startError? argv = some e) :
    m.Refuses file argv e.text := by
  have hrefused : m.AllRefused argv (m.startPaths file) [e] := by
    rw [startPaths_slash hslash]
    exact .cons (execute_unless hrun he) .nil
  have hcounted : countedError [e] = e := by
    by_cases hcounts : e ≠ .noEntry ∧ e ≠ .notDirectory
    · rw [countedError, List.find?_cons_of_pos (by simpa using hcounts)]
      rfl
    · rw [countedError, List.find?_cons_of_neg (by simpa using hcounts)]
      rfl
  exact hcounted ▸ .system hargs hrefused

/-- The machine is what it was, but for its records and for one report on the error console. -/
def Reported (m : Machine) (text : String) (m' : Machine) : Prop :=
  m' = { m.print .err text with events := m'.events }

end Machine

namespace Session

theorem dispatch_missing (sh : Session) {c : Command} {m : Machine}
    (hname : sh.handlers.lookup c.name = none) (hf : m.findProgram? c.name none = none) :
    sh.dispatch c m =
      (.ok 127, (m.note (.external c.name c.args)).print .err s!"{c.name}: not found\n") := by
  have hl := Machine.lookUp_missing (m := m.note (.external c.name c.args)) hf
  rw [dispatch_program sh m hname, runProgram_missing (Run.program_missing c.out c.err hl) rfl,
    Meaning.notFound_line]

theorem dispatch_refused (sh : Session) {c : Command} {m : Machine} {file reason : String}
    (hname : sh.handlers.lookup c.name = none) (hf : m.findProgram? c.name none = some file)
    (hrefuses : m.Refuses file (c.name :: c.args) reason) :
    sh.dispatch c m =
      (.ok 126, ((m.note (.external c.name c.args)).note (.resolved c.name file)).print .err
        s!"Error: {reason}\n") := by
  have hl := Machine.lookUp_found (m := m.note (.external c.name c.args)) hf
  have hs : m.start file (c.name :: c.args) = .error (.start reason) :=
    Machine.start_error_iff.mpr ⟨reason, rfl, hrefuses⟩
  rw [← Machine.start_note m (.external c.name c.args), ← Machine.start_note _
    (.resolved c.name file)] at hs
  rw [dispatch_program sh m hname,
    runProgram_unstarted (Run.program_unstarted c.out c.err hl hs) rfl]

/-- A command whose program is not found, or cannot be started for one of the reasons there are,
leaves its report on the console and no trace in any file. -/
theorem dispatch_unstarted (sh : Session) {c : Command} (m : Machine)
    (hname : sh.handlers.lookup c.name = none) :
    ((∀ directory ∈ searchDirectories (m.searchPath none),
        m.hasProgram (Path.join directory c.name) = false) →
      (sh.dispatch c m).1 = .ok 127 ∧
        m.Reported s!"{c.name}: not found\n" (sh.dispatch c m).2) ∧
    ∀ file, m.findProgram? c.name none = some file →
      (∀ reason, m.Refuses file (c.name :: c.args) reason →
        (sh.dispatch c m).1 = .ok 126 ∧ m.Reported s!"Error: {reason}\n" (sh.dispatch c m).2) ∧
      ∀ f, m.start file (c.name :: c.args) = .error f ↔
        ∃ reason, f = .start reason ∧ m.Refuses file (c.name :: c.args) reason := by
  refine ⟨fun hnone => ?_, fun file hf => ⟨fun reason hrefuses => ?_, fun f => ?_⟩⟩
  · rw [dispatch_missing sh hname (Machine.findProgram?_none.mpr hnone)]
    exact ⟨rfl, rfl⟩
  · rw [dispatch_refused sh hname hf hrefuses]
    exact ⟨rfl, rfl⟩
  · exact Machine.start_error_iff

def deniedProgram : Machine where
  disk := ⟨#[
    .directory Disk.root [("bin", 1), ("kept", 2)],
    .directory Disk.root [("tool", 3)],
    .regular (Utf8.encode "old") 0o644,
    .regular [] 0o644]⟩
  environment := ⟨[("PATH", "/bin")]⟩

def deniedCommand (name : String) (args : List String) : Command where
  name := name
  args := args
  out := .file "kept" .overwrite
  err := .file "new" .append

theorem dispatch_unstarted_denied :
    (({} : Session).dispatch (deniedCommand "tool" []) deniedProgram).1 = .ok 126 ∧
      deniedProgram.Reported "Error: Permission denied\n"
        (({} : Session).dispatch (deniedCommand "tool" []) deniedProgram).2 ∧
      deniedProgram.Reported "Error: embedded null byte\n"
        (({} : Session).dispatch (deniedCommand "tool" ["\x00"]) deniedProgram).2 ∧
      deniedProgram.Reported "other: not found\n"
        (({} : Session).dispatch (deniedCommand "other" []) deniedProgram).2 := by
  have hfound : deniedProgram.findProgram? "tool" none = some "/bin/tool" := rfl
  have hdenied : deniedProgram.Refuses "/bin/tool" ["tool"] "Permission denied" := by
    have htext : (Machine.countedError [.accessDenied]).text = "Permission denied" := by
      decide +kernel
    have hpath : deniedProgram.AllRefused ["tool"] ["/bin/tool"] [.accessDenied] := .cons rfl .nil
    rw [← htext]
    exact .system (by decide) hpath
  have hnull : deniedProgram.Refuses "/bin/tool" ["tool", "\x00"] "embedded null byte" := by
    have hlast : "\x00" ∈ ["tool", "\x00"] := by decide
    exact .argument hlast (by decide)
  have hmissing : ∀ directory ∈ searchDirectories (deniedProgram.searchPath none),
      deniedProgram.hasProgram (Path.join directory "other") = false := by
    decide +kernel
  obtain ⟨-, hrefused⟩ := dispatch_unstarted {} (c := deniedCommand "tool" []) deniedProgram rfl
  obtain ⟨-, hrefused'⟩ :=
    dispatch_unstarted {} (c := deniedCommand "tool" ["\x00"]) deniedProgram rfl
  obtain ⟨hnone, -⟩ := dispatch_unstarted {} (c := deniedCommand "other" []) deniedProgram rfl
  have hreport := (hrefused _ hfound).1 _ hdenied
  exact ⟨hreport.1, hreport.2, ((hrefused' _ hfound).1 _ hnull).2, (hnone hmissing).2⟩

end Session

end CommandShell
