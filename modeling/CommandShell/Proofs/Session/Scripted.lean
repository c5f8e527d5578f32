import CommandShell.CommandLine
import CommandShell.Proofs.Session.Captured
import CommandShell.Proofs.Session.Endings
import CommandShell.Proofs.Session.FrontEnds
import CommandShell.Proofs.Text.Decoding

/-!
# What a script does

The lines of a script run in order, each on the machine that the one before it left, up to the first
that fails or leaves the shell. The lines are those that stand in the file when it is opened.
-/

open CommandShell.Effect

namespace CommandShell

namespace Session

/-! ## The run of the lines -/

/-- Lines run on a machine, the first of them being line `n` of the script: the result, what is said
about it on the error output, and the machine that is left. -/
inductive Runs (sh : Session) :
    Nat → List (List Char) → Machine → Except Escape Int → String → Machine → Prop
  | done {n : Nat} {m : Machine} : Runs sh n [] m (.ok 0) "" m
  | skipped {n : Nat} {line : List Char} {rest : List (List Char)} {m m' : Machine}
      {r : Except Escape Int} {said : String} :
      IsSkipped line → Runs sh (n + 1) rest m r said m' → Runs sh n (line :: rest) m r said m'
  | passed {n : Nat} {line : List Char} {rest : List (List Char)} {m m₁ m' : Machine}
      {r : Except Escape Int} {said : String} :
      ¬ IsSkipped line → sh.execute (strip (String.ofList line)) m = (.ok 0, m₁) →
      Runs sh (n + 1) rest m₁ r said m' → Runs sh n (line :: rest) m r said m'
  | failed {n : Nat} {line : List Char} {rest : List (List Char)} {m m' : Machine} {code : Int} :
      ¬ IsSkipped line → sh.execute (strip (String.ofList line)) m = (.ok code, m') → code ≠ 0 →
      Runs sh n (line :: rest) m (.ok code)
        s!"Error at line {n}: command failed with exit code {code}\n" m'
  | left {n : Nat} {line : List Char} {rest : List (List Char)} {m m' : Machine} {e : Escape} :
      ¬ IsSkipped line → sh.execute (strip (String.ofList line)) m = (.error e, m') →
      Runs sh n (line :: rest) m (.error e) "" m'

/-- The end of a script, with the text of its report. -/
def told : Except Escape (Int × Option ScriptReport) × Machine →
    Except Escape Int × String × Machine
  | (.ok (status, none), m) => (.ok status, "", m)
  | (.ok (status, some report), m) => (.ok status, report.message, m)
  | (.error e, m) => (.error e, "", m)

theorem runs_told {sh : Session} {n : Nat} {lines : List (List Char)} {m m' : Machine}
    {r : Except Escape Int} {said : String} (h : sh.Runs n lines m r said m') :
    told (sh.runLines (numberedFrom n lines) m) = (r, said, m') := by
  induction h with
  | done => rfl
  | skipped hs _ ih => rw [numberedFrom_skipped hs, ih]
  | passed hs he _ ih =>
    rw [numberedFrom_run hs, runLines, bind_ok he, if_pos rfl]
    exact ih
  | failed hs he hcode =>
    rw [numberedFrom_run hs, runLines, bind_ok he, if_neg hcode]
    rfl
  | left hs he =>
    rw [numberedFrom_run hs, runLines, bind_error he]
    rfl

theorem exists_runs (sh : Session) (n : Nat) (lines : List (List Char)) (m : Machine) :
    ∃ r said m', sh.Runs n lines m r said m' := by
  induction lines generalizing n m with
  | nil => exact ⟨_, _, _, .done⟩
  | cons line rest ih =>
    by_cases hs : IsSkipped line
    · obtain ⟨r, said, m', hrest⟩ := ih (n + 1) m
      exact ⟨r, said, m', .skipped hs hrest⟩
    · rcases he : sh.execute (strip (String.ofList line)) m with ⟨e | code, m₁⟩
      · exact ⟨_, _, _, .left hs he⟩
      · by_cases hcode : code = 0
        · subst hcode
          obtain ⟨r, said, m', hrest⟩ := ih (n + 1) m₁
          exact ⟨r, said, m', .passed hs he hrest⟩
        · exact ⟨_, _, _, .failed hs he hcode⟩

theorem runs_iff {sh : Session} {n : Nat} {lines : List (List Char)} {m m' : Machine}
    {r : Except Escape Int} {said : String} :
    sh.Runs n lines m r said m' ↔
      told (sh.runLines (numberedFrom n lines) m) = (r, said, m') := by
  constructor
  · exact runs_told
  · intro h
    obtain ⟨r₁, said₁, m₁, hruns⟩ := exists_runs sh n lines m
    obtain ⟨rfl, rfl, rfl⟩ : r₁ = r ∧ said₁ = said ∧ m₁ = m' := by
      simpa using (runs_told hruns).symm.trans h
    exact hruns

/-! ## The run of a script -/

def scripted (sh : Session) (path : String) (m : Machine) : Except Escape Int × String × Machine :=
  told (sh.runScript path m)

section Scripted

variable (sh : Session) {m : Machine} {path : String}

theorem scripted_content {content : Bytes} (hpath : Disk.isPathText path = true)
    (hfile : m.disk.contentAt m.cwd path = .ok content) :
    sh.scripted path m =
      match Utf8.decodeFile content with
      | .error e => (.error (.fault (.undecodable e)), "", m)
      | .ok text => told (sh.runLines (scriptLines text) m) := by
  rw [scripted, runScript_content sh hpath hfile]
  cases Utf8.decodeFile content <;> rfl

theorem display_empty (stream : Stream) : m.display stream "" = m := by
  cases stream <;> simp [Machine.display, Machine.setConsole, Machine.console, Console.write]

theorem serve_scripted {request : CommandLine.Request} (hline : request.line? = none)
    (hscript : request.operands.head? = some path) (hne : path ≠ "")
    (hsh : sh = { settings :=
      (Settings.ofEnvironment m.environment).override request.prompt? request.debug })
    (input : String) :
    CommandLine.serve request input m =
      ((sh.scripted path m).1, (sh.scripted path m).2.2.display .err (sh.scripted path m).2.1) := by
  subst hsh
  unfold CommandLine.serve
  rw [bind_ok (get_apply m)]
  simp only [hline, hscript, String.isEmpty_iff, hne, if_false]
  rw [bind_apply, scripted]
  rcases runScript _ path m with ⟨e | ⟨status, _ | report⟩, m'⟩
  · simp only [told, display_empty]
  · simp only [told, display_empty]
    rfl
  · rfl

/-- A script whose content is text runs the lines that the content is divided into, and says which
one failed. A script whose content is no text does nothing. -/
theorem script_runs {content : Bytes} (hpath : Disk.isPathText path = true)
    (hfile : m.disk.contentAt m.cwd path = .ok content) :
    (¬ Utf8.WellFormed content →
      ∃ e, sh.scripted path m = (.error (.fault (.undecodable e)), "", m)) ∧
    (∀ text, content = Utf8.spell text →
      (∃ rows, Newline.Divides rows text) ∧
        ∀ rows, Newline.Divides rows text → ∀ r said m',
          sh.scripted path m = (r, said, m') ↔ sh.Runs 1 (rows.map (·.line)) m r said m') ∧
    ∀ (request : CommandLine.Request) (input : String), request.line? = none →
      request.operands.head? = some path → path ≠ "" →
      sh = { settings :=
        (Settings.ofEnvironment m.environment).override request.prompt? request.debug } →
      CommandLine.serve request input m =
        ((sh.scripted path m).1,
          (sh.scripted path m).2.2.display .err (sh.scripted path m).2.1) := by
  have hrun := scripted_content sh hpath hfile
  refine ⟨?_, ?_, ?_⟩
  · intro hflawed
    cases hread : Utf8.decodeFile content with
    | error e =>
      rw [hread] at hrun
      exact ⟨e, hrun⟩
    | ok text => exact absurd ⟨text, Utf8.decodeFile_ok.mp hread⟩ hflawed
  · intro text htext
    rw [Utf8.decodeFile_ok.mpr htext] at hrun
    dsimp only at hrun
    refine ⟨Newline.exists_divides text, fun rows hrows r said m' => ?_⟩
    have hlines : scriptLines text = numberedFrom 1 (rows.map (·.line)) := by
      rw [← hrows.joins, scriptLines_joined hrows.plain hrows.separated]
      rfl
    rw [hrun, hlines, runs_iff]
  · intro request input hline hscript hne hsh
    exact serve_scripted sh hline hscript hne hsh input

end Scripted

def restlessRows : List Newline.Row :=
  [⟨"# leave".toList, .carriage⟩, ⟨" ".toList, .both⟩, ⟨"  echo exit > s ".toList, .feed⟩,
    ⟨"exit".toList, .both⟩, ⟨"echo late".toList, .missing⟩]

def restlessMachine : Machine := scriptMachine.withText 1 0o644 (Newline.joined restlessRows)

def flawedMachine : Machine where
  disk := ⟨#[
    .directory Disk.root [("s", 1)],
    .regular (Utf8.encode "echo a\n" ++ [0xFF]) 0o644]⟩

theorem script_runs_restless :
    (∃ m', ({} : Session).Runs 1 (restlessRows.map (·.line)) restlessMachine (.ok 1)
        "Error at line 4: command failed with exit code 1\n" m' ∧
      m'.disk.contentAt m'.cwd "s" = .ok (Utf8.encode "exit\n") ∧ m'.out.text = "") ∧
    (CommandLine.serve { operands := ["s"] } "" restlessMachine).2.err.text =
      "Usage: exit 0\nError at line 4: command failed with exit code 1\n" ∧
    ∃ e, ({} : Session).scripted "s" flawedMachine =
      (.error (.fault (.undecodable e)), "", flawedMachine) := by
  have hfile : restlessMachine.disk.contentAt restlessMachine.cwd "s" =
      .ok (Utf8.spell (Newline.joined restlessRows)) := by
    decide +kernel
  have hrows : Newline.Divides restlessRows (Newline.joined restlessRows) :=
    ⟨by simp [restlessRows, Newline.Row.IsPlain],
      by simp [restlessRows, Newline.Separates, Newline.Row.IsFeed], rfl⟩
  have hflawed : flawedMachine.disk.contentAt flawedMachine.cwd "s" =
      .ok (Utf8.encode "echo a\n" ++ [0xFF]) := rfl
  have hnone : ¬ Utf8.WellFormed (Utf8.encode "echo a\n" ++ [0xFF]) := by
    rintro ⟨text, htext⟩
    have hread : Utf8.decodeFile (Utf8.encode "echo a\n" ++ [0xFF]) =
        .error ⟨7, [0xFF], .invalidStart⟩ := by
      decide +kernel
    rw [Utf8.decodeFile_ok.mpr htext] at hread
    cases hread
  have hsettings : ({} : Settings) =
      (Settings.ofEnvironment restlessMachine.environment).override none false := by
    decide +kernel
  have hresult : (({} : Session).scripted "s" restlessMachine).1 = .ok 1 := by decide +kernel
  have hsaid : (({} : Session).scripted "s" restlessMachine).2.1 =
      "Error at line 4: command failed with exit code 1\n" := by
    decide +kernel
  have hafter : (({} : Session).scripted "s" restlessMachine).2.2.disk.contentAt
      (({} : Session).scripted "s" restlessMachine).2.2.cwd "s" = .ok (Utf8.encode "exit\n") := by
    decide +kernel
  have hout : (({} : Session).scripted "s" restlessMachine).2.2.out.text = "" := by
    decide +kernel
  have herr : (({} : Session).scripted "s" restlessMachine).2.2.err.text = "Usage: exit 0\n" := by
    decide +kernel
  obtain ⟨-, hruns, hserve⟩ := script_runs {} (by decide) hfile
  obtain ⟨hnothing, -⟩ := script_runs {} (by decide) hflawed
  have hserved := hserve { operands := ["s"] } "" rfl rfl (by decide)
    (congrArg (Session.mk · _) hsettings)
  rw [hserved]
  rcases hrun : ({} : Session).scripted "s" restlessMachine with ⟨r, said, m'⟩
  rw [hrun] at hresult hsaid hafter hout herr
  dsimp only at hresult hsaid hafter hout herr
  subst hresult hsaid
  refine ⟨⟨m', ((hruns _ rfl).2 _ hrows _ _ _).mp hrun, hafter, hout⟩, ?_, hnothing hnone⟩
  change m'.err.text ++ "Error at line 4: command failed with exit code 1\n" = _
  rw [herr]
  rfl

end Session

end CommandShell
