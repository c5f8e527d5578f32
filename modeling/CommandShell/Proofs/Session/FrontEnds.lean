import CommandShell.Proofs.Line.Strip
import CommandShell.Proofs.Session.Survival
import CommandShell.Proofs.Session.Twin
import CommandShell.Proofs.Text.Newline

/-!
# One line, handed over in three ways

A line that is run by itself, that is typed into a session, or that is all of a script is the same
line, except that the last two strip it.
-/

open CommandShell.Effect

namespace CommandShell

/-! ## A script of one line -/

theorem scriptLines_one {line : String} {ending : List Char}
    (hline : ∀ c ∈ line.toList, c ≠ '\n' ∧ c ≠ '\r') (hne : strip line ≠ "")
    (hcomment : (strip line).toList.head? ≠ some '#')
    (hend : ending ∈ [[], ['\n'], ['\r', '\n'], ['\r']]) :
    scriptLines (line.toList ++ ending) = [(1, strip line)] := by
  have hrun : ¬ IsSkipped line.toList := by
    unfold IsSkipped
    rw [String.ofList_toList, not_or]
    exact ⟨hne, hcomment⟩
  obtain ⟨e, rfl⟩ : ∃ e : Newline.Ending, e.chars = ending := by
    simp only [List.mem_cons, List.not_mem_nil, or_false] at hend
    rcases hend with rfl | rfl | rfl | rfl
    · exact ⟨.missing, rfl⟩
    · exact ⟨.feed, rfl⟩
    · exact ⟨.both, rfl⟩
    · exact ⟨.carriage, rfl⟩
  have hjoined : Newline.joined [⟨line.toList, e⟩] = line.toList ++ e.chars := List.append_nil _
  have hplain : ∀ row ∈ [Newline.Row.mk line.toList e], row.IsPlain := by
    simpa [Newline.Row.IsPlain] using hline
  rw [← hjoined, scriptLines_joined hplain trivial, numbered_eq]
  simp only [List.map_cons, List.map_nil]
  rw [numberedFrom_run hrun, String.ofList_toList]
  rfl

namespace Session

theorem runScript_content (sh : Session) {m : Machine} {path : String} {content : Bytes}
    (hpath : Disk.isPathText path = true) (hfile : m.disk.contentAt m.cwd path = .ok content) :
    sh.runScript path m =
      match Utf8.decodeFile content with
      | .error e => (.error (.fault (.undecodable e)), m)
      | .ok text => sh.runLines (scriptLines text) m := by
  rw [runScript, bind_ok (get_apply m)]
  simp only [hpath, hfile, Bool.not_true, Bool.false_eq_true, if_false]
  cases Utf8.decodeFile content <;> rfl

/-- How a script of one line ends, from how the line does. -/
def afterScript : Except Escape Int × Machine → Except Escape (Int × Option ScriptReport) × Machine
  | (.ok status, m) => (.ok (status, if status = 0 then none else some (.failed 1 status)), m)
  | (.error e, m) => (.error e, m)

theorem runLines_one (sh : Session) (line : String) (m : Machine) :
    sh.runLines [(1, line)] m = afterScript (sh.execute line m) := by
  rw [runLines, bind_apply]
  rcases sh.execute line m with ⟨_ | status, m'⟩
  · rfl
  · simp only [afterScript]
    split
    · next h =>
      rw [h]
      rfl
    · rfl

end Session

/-! ## A session of one line -/

namespace Machine

/-- The machine with another text on its console, and other prompts. -/
def retold (m : Machine) (text : String) (prompts : Array String) : Machine :=
  { m with out := { m.out with text }, prompts }

/-- The second machine is the first but for its prompts, and for what was on the console in front of
all that is said. -/
def Behind (before before' : String) (prompts : Array String) (m m' : Machine) : Prop :=
  ∃ said, m.out.text = before ++ said ∧ m' = m.retold (before' ++ said) prompts

theorem behind_parallel (before before' : String) (prompts : Array String) :
    Parallel (Behind before before' prompts) Eq Eq where
  files := Disk.parallel_eq
  core := by
    rintro m m' ⟨said, -, rfl⟩
    rfl
  alike := by
    rintro m m' ⟨said, -, rfl⟩
    rfl
  disk := by
    rintro m m' ⟨said, ht, rfl⟩ disk _ rfl
    exact ⟨said, ht, rfl⟩
  cwd := by
    rintro m m' ⟨said, ht, rfl⟩ cwd
    exact ⟨said, ht, rfl⟩
  note := by
    rintro m m' ⟨said, ht, rfl⟩ e
    exact ⟨said, ht, rfl⟩
  print := by
    rintro m m' ⟨said, ht, rfl⟩ stream text -
    cases stream with
    | out =>
      refine ⟨said ++ text, ?_, ?_⟩
      · rw [← String.append_assoc, ← ht]
        rfl
      · rw [← String.append_assoc]
        rfl
    | err => exact ⟨said, ht, rfl⟩

end Machine

namespace Session

def shown (sh : Session) (echoes : Bool) : String := if echoes then sh.settings.prompt else ""

theorem prompted_eq (sh : Session) (echoes : Bool) (m : Machine) :
    sh.prompted echoes m =
      m.retold (m.out.text ++ sh.shown echoes) (m.prompts.push sh.settings.prompt) := by
  cases echoes with
  | true => rfl
  | false =>
    rw [shown, if_neg (by decide), String.append_empty]
    rfl

variable (settings : Settings)

theorem execute_prompted (line : String) (echoes : Bool) (m : Machine) :
    let sh : Session := { settings }
    ∃ said, (sh.execute line m).2.out.text = m.out.text ++ said ∧
      sh.execute line (sh.prompted echoes m) =
        ((sh.execute line m).1, (sh.execute line m).2.retold
          (m.out.text ++ sh.shown echoes ++ said) (m.prompts.push settings.prompt)) := by
  intro sh
  have hR := Machine.behind_parallel m.out.text (m.out.text ++ sh.shown echoes)
    (m.prompts.push settings.prompt)
  have hstart : Machine.Behind m.out.text (m.out.text ++ sh.shown echoes)
      (m.prompts.push settings.prompt) m (sh.prompted echoes m) :=
    ⟨"", String.append_empty.symm, by rw [prompted_eq, String.append_empty]⟩
  obtain ⟨r, n, n', hn, hn', said, hsaid, rfl⟩ := twin_execute hR settings hstart
    (lineStarts_core (by rw [prompted_eq]; rfl) line)
  refine ⟨said, ?_, ?_⟩
  · rw [hn]
    exact hsaid
  · rw [hn, hn']

theorem answer_run {line : String} (h : strip line ≠ "") (m : Machine) :
    let sh : Session := { settings }
    sh.answer line m =
      ((sh.execute (strip line) m).1.map fun _ => (), (sh.execute (strip line) m).2) := by
  intro sh
  have hends := execute_ends settings (strip line) m
  rw [answer_eq h]
  rcases hrun : sh.execute (strip line) m with ⟨e | status, m'⟩
  · cases e with
    | interrupt message =>
      have hfst : (({ settings } : Session).execute (strip line) m).1 =
          .error (.interrupt message) := congrArg Prod.fst hrun
      rw [hfst] at hends
      rcases hends with ⟨_, h⟩ | ⟨h, -⟩ | ⟨_, h, -⟩ <;> cases h
    | _ => rfl
  · rfl

def afterSession (sh : Session) (echoes : Bool) (m : Machine) (said : String) :
    Except Escape Int × Machine → Except Escape Int × Machine
  | (.ok _, m') =>
    (.ok 0, m'.retold (m.out.text ++ sh.shown echoes ++ said ++ sh.shown echoes ++ "\n")
      ((m.prompts.push sh.settings.prompt).push sh.settings.prompt))
  | (.error e, m') =>
    (.error e, m'.retold (m.out.text ++ sh.shown echoes ++ said)
      (m.prompts.push sh.settings.prompt))

theorem interact_end_prompted (sh : Session) (echoes : Bool) (m : Machine) :
    sh.interact echoes [] m = (.ok 0, m.retold (m.out.text ++ sh.shown echoes ++ "\n")
      (m.prompts.push sh.settings.prompt)) := by
  have hend : sh.interact echoes [] m = (.ok 0, (sh.prompted echoes m).display .out "\n") := rfl
  rw [hend, prompted_eq]
  rfl

theorem interact_one {line : String} (h : strip line ≠ "") (echoes : Bool) (m : Machine) :
    ∃ said, (({ settings } : Session).execute (strip line) m).2.out.text = m.out.text ++ said ∧
      ({ settings } : Session).interact echoes [.line line] m =
        ({ settings } : Session).afterSession echoes m said
          (({ settings } : Session).execute (strip line) m) := by
  obtain ⟨said, hsaid, hrun⟩ := execute_prompted settings (strip line) echoes m
  refine ⟨said, hsaid, ?_⟩
  rw [interact_turn _ echoes m (by rintro ⟨⟩), turn, bind_apply, answer_run settings h, hrun]
  rcases ({ settings } : Session).execute (strip line) m with ⟨_ | status, m'⟩
  · rfl
  · simp only [Except.map, interact_end_prompted]
    rfl

/-- A line does the same as a session of its own, as a script of its own and by itself, but for
being stripped by the first two: behind the prompts and in front of the line feed that ends the
session, and with the report of the script. Stripping leaves the command alone unless the line ends
with a blank that its last word takes in. -/
theorem frontEnds_agree {line path : String} {content : Bytes} {ending : List Char} {m : Machine}
    (hline : ∀ c ∈ line.toList, c ≠ '\n' ∧ c ≠ '\r') (hne : strip line ≠ "")
    (hcomment : (strip line).toList.head? ≠ some '#') (hpath : Disk.isPathText path = true)
    (hfile : m.disk.contentAt m.cwd path = .ok content)
    (htext : Utf8.decodeFile content = .ok (line.toList ++ ending))
    (hend : ending ∈ [[], ['\n'], ['\r', '\n'], ['\r']]) (echoes : Bool) :
    let sh : Session := { settings }
    (Line.words (strip line) = Line.words line ↔
      (∀ c, line.toList.getLast? = some c → isBlank c = false) ∨
        (Line.scan {} (stripChars line.toList)).mode = .bare) ∧
    (Line.words (strip line) = Line.words line →
      sh.execute (strip line) m = sh.execute line m) ∧
    sh.runScript path m = afterScript (sh.execute (strip line) m) ∧
    ∃ said, (sh.execute (strip line) m).2.out.text = m.out.text ++ said ∧
      sh.interact echoes [.line line] m =
        sh.afterSession echoes m said (sh.execute (strip line) m) := by
  dsimp only
  refine ⟨Line.words_strip line, fun hwords => ?_, ?_, interact_one settings hne echoes m⟩
  · have hread : read (strip line) = read line := by
      unfold read
      rw [hwords]
    unfold execute
    rw [hread]
  · have hrun : ({ settings } : Session).runScript path m =
        ({ settings } : Session).runLines (scriptLines (line.toList ++ ending)) m := by
      rw [runScript_content _ hpath hfile, htext]
    rw [hrun, scriptLines_one hline hne hcomment hend, runLines_one]

def slashLine : String := "echo a\\ "

def slashMachine : Machine where
  disk := ⟨#[
    .directory Disk.root [("s", 1)],
    .regular (Utf8.encode slashLine) 0o644]⟩

theorem frontEnds_agree_slash :
    Line.words (strip slashLine) ≠ Line.words slashLine ∧
      (({} : Session).execute slashLine slashMachine).2.out.text = "a \n" ∧
      (({} : Session).runScript "s" slashMachine).2.out.text = "a\n" ∧
      (({} : Session).interact false [.line slashLine] slashMachine).2.out.text = "a\n\n" := by
  have hline : ∀ c ∈ slashLine.toList, c ≠ '\n' ∧ c ≠ '\r' := by simp [slashLine]
  have hfile : slashMachine.disk.contentAt slashMachine.cwd "s" = .ok (Utf8.encode slashLine) := rfl
  have htext : Utf8.decodeFile (Utf8.encode slashLine) = .ok (slashLine.toList ++ []) := rfl
  have hout : (({} : Session).execute (strip slashLine) slashMachine).2.out.text = "a\n" := rfl
  obtain ⟨hwords, -, hscript, said, hsaid, hsession⟩ :=
    frontEnds_agree {} hline (by decide) (by decide) (by decide) hfile htext
      List.mem_cons_self false
  refine ⟨fun h => ?_, rfl, ?_, ?_⟩
  · rcases hwords.mp h with hlast | hbare
    · exact absurd (hlast ' ' rfl) (by decide)
    · exact absurd hbare (by decide)
  · rw [hscript]
    rfl
  · have hsaid' : said = "a\n" := by
      rw [hout] at hsaid
      exact (hsaid.trans String.empty_append).symm
    rw [hsession, hsaid']
    rfl

end Session

end CommandShell
