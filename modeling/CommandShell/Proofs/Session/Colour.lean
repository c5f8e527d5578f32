import CommandShell.Proofs.Session.Said

/-!
# Colour shows on the error console alone

Whether the consoles are terminals and show colour is nothing that a line can see. It changes how
the texts on the error console look, one by one, and nothing else.
-/

open CommandShell.Effect

namespace CommandShell

structure Screen where
  terminal : Bool
  plain : Bool
  deriving DecidableEq, Repr

def Console.on (c : Console) (s : Screen) : Console :=
  { c with terminal := s.terminal, plain := s.plain }

namespace Machine

def on (m : Machine) (out err : Screen) : Machine :=
  { m with out := m.out.on out, err := m.err.on err }

/-- The second machine is the first on these screens, with a text of its own on the error
console. -/
def Dressed (out err : Screen) (m m' : Machine) : Prop :=
  ∃ text, m' = { m.on out err with err := ⟨text, err.terminal, err.plain⟩ }

theorem dressed_on (m : Machine) (out err : Screen) : m.Dressed out err (m.on out err) :=
  ⟨m.err.text, rfl⟩

theorem dressed_parallel (out err : Screen) : Parallel (Dressed out err) Eq Eq where
  files := Disk.parallel_eq
  core := by
    rintro m m' ⟨text, rfl⟩
    rfl
  alike := by
    rintro m m' ⟨text, rfl⟩
    rfl
  disk := by
    rintro m m' ⟨text, rfl⟩ disk _ rfl
    exact ⟨text, rfl⟩
  cwd := by
    rintro m m' ⟨text, rfl⟩ cwd
    exact ⟨text, rfl⟩
  note := by
    rintro m m' ⟨text, rfl⟩ e
    exact ⟨text, rfl⟩
  print := by
    rintro m m' ⟨text, rfl⟩ (_ | _) said -
    · exact ⟨text, rfl⟩
    · exact ⟨_, rfl⟩

end Machine

namespace Session

/-! ## Many lines -/

def runAll (sh : Session) : List String → Machine → List (Except Escape Int) × Machine
  | [], m => ([], m)
  | line :: rest, m =>
    let after := sh.runAll rest (sh.execute line m).2
    ((sh.execute line m).1 :: after.1, after.2)

def allTexts (sh : Session) : List String → Machine → List (Stream × String)
  | [], _ => []
  | line :: rest, m => lineTexts line m ++ sh.allTexts rest (sh.execute line m).2

variable (settings : Settings)

theorem runAll_shows (lines : List String) (m : Machine) :
    m.Shows (({ settings } : Session).allTexts lines m)
      (({ settings } : Session).runAll lines m).2 := by
  induction lines generalizing m with
  | nil => exact Machine.shows_nil fun _ => rfl
  | cons line rest ih =>
    rw [runAll, allTexts]
    exact (execute_shows settings line m).trans (ih _)

theorem allTexts_ne (lines : List String) (m : Machine) :
    ∀ row ∈ ({ settings } : Session).allTexts lines m, row.2 ≠ "" := by
  induction lines generalizing m with
  | nil => exact fun row hrow => absurd hrow List.not_mem_nil
  | cons line rest ih =>
    intro row hrow
    rcases List.mem_append.mp hrow with hrow | hrow
    · exact lineTexts_ne line m row hrow
    · exact ih _ row hrow

theorem allTexts_core (lines : List String) {m m' : Machine} (h : m'.core = m.core) :
    ({ settings } : Session).allTexts lines m' = ({ settings } : Session).allTexts lines m := by
  induction lines generalizing m m' with
  | nil => rfl
  | cons line rest ih =>
    obtain ⟨r, n, n', hr, hr', hn⟩ :=
      twin_execute core_parallel settings h (lineStarts_core h line)
    rw [allTexts, allTexts, lineTexts_core h, hr, hr', ih hn]

theorem runAll_dressed {out err : Screen} (lines : List String) {m m' : Machine}
    (h : m.Dressed out err m') :
    (({ settings } : Session).runAll lines m').1 = (({ settings } : Session).runAll lines m).1 ∧
      (({ settings } : Session).runAll lines m).2.Dressed out err
        (({ settings } : Session).runAll lines m').2 := by
  induction lines generalizing m m' with
  | nil => exact ⟨rfl, h⟩
  | cons line rest ih =>
    have hcore : m'.core = m.core := by
      obtain ⟨text, rfl⟩ := h
      rfl
    obtain ⟨r, n, n', hr, hr', hn⟩ :=
      twin_execute (Machine.dressed_parallel out err) settings h (lineStarts_core hcore line)
    obtain ⟨hresults, hdressed⟩ := ih hn
    rw [runAll, runAll, hr, hr', hresults]
    exact ⟨rfl, hdressed⟩

/-- Lines come to the same results, files, directory and output on whatever the consoles are shown.
The error console has one text after the other, each in red where colour shows and as it is
otherwise. -/
theorem runAll_coloured (lines : List String) (m : Machine) :
    let sh : Session := { settings }
    let texts := textsOn .err (sh.allTexts lines m)
    (∀ text ∈ texts, text ≠ "") ∧ ∀ out err : Screen,
      (sh.runAll lines (m.on out err)).1 = (sh.runAll lines m).1 ∧
        (sh.runAll lines (m.on out err)).2.disk = (sh.runAll lines m).2.disk ∧
        (sh.runAll lines (m.on out err)).2.cwd = (sh.runAll lines m).2.cwd ∧
        (sh.runAll lines (m.on out err)).2.out.text = (sh.runAll lines m).2.out.text ∧
        (sh.runAll lines (m.on out err)).2.err.text = m.err.text ++ String.join
          (if err.terminal && !err.plain then
            texts.map fun text => "\x1b[31m" ++ text ++ "\x1b[0m"
          else texts) := by
  intro sh texts
  have hne : ∀ text ∈ texts, text ≠ "" := by
    intro text htext
    obtain ⟨row, hrow, rfl⟩ := List.mem_map.mp htext
    exact allTexts_ne settings lines m row (List.mem_filter.mp hrow).1
  refine ⟨hne, fun out err => ?_⟩
  obtain ⟨hresults, text, hdressed⟩ := runAll_dressed settings lines (m.dressed_on out err)
  have hshows := runAll_shows settings lines (m.on out err) .err
  rw [allTexts_core settings lines (show (m.on out err).core = m.core from rfl)] at hshows
  have herr := congrArg Console.text hshows
  refine ⟨hresults, by rw [hdressed]; rfl, by rw [hdressed]; rfl, by rw [hdressed]; rfl, ?_⟩
  refine herr.trans (congrArg (m.err.text ++ ·) (congrArg String.join ?_))
  have hlook : ∀ text ∈ texts, ((m.on out err).console .err).look .err text =
      if err.terminal && !err.plain then Console.inRed text else text := by
    intro text htext
    have hempty : text.isEmpty = false := by simpa using hne text htext
    simp only [Console.look, hempty, Bool.false_eq_true, if_false]
    rfl
  rw [List.map_congr_left hlook]
  split
  · rfl
  · exact List.map_id' texts

end Session

end CommandShell
