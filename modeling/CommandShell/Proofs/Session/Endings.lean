import CommandShell.Proofs.File.Alike
import CommandShell.Proofs.Session.Twin
import CommandShell.Proofs.Text.Newline
import CommandShell.Proofs.Text.Utf8

/-!
# Scripts and their line endings

What a script does depends on its lines, and not on what ends each of them: the same lines are run,
with the same numbers, and all that they leave is the same but for the script itself.
-/

open CommandShell.Effect

namespace CommandShell

/-! ## Machines that one file tells apart -/

def Machine.Alike (i : Ino) (m m' : Machine) : Prop :=
  m.disk.Alike i m'.disk ∧ m' = { m with disk := m'.disk }

theorem Machine.alike_parallel (i : Ino) :
    Machine.Parallel (Machine.Alike i) (Disk.Alike i) Handle.Alike where
  files := Disk.alike_parallel i
  core := by
    rintro m m' ⟨-, hm⟩
    rw [hm]
    rfl
  alike := And.left
  disk := by
    rintro m m' ⟨-, hm⟩ d d' hd
    exact ⟨hd, by rw [hm]⟩
  cwd := by
    rintro m m' ⟨hd, hm⟩ cwd
    exact ⟨hd, by rw [hm]⟩
  note := by
    rintro m m' ⟨hd, hm⟩ e
    exact ⟨hd, by rw [hm]; rfl⟩
  print := by
    rintro m m' ⟨hd, hm⟩ stream text -
    rw [hm]
    cases stream <;> exact ⟨hd, rfl⟩

theorem Disk.Alike.contentAt {i : Ino} {d d' : Disk} (h : d.Alike i d') {dir : Ino} {path : String}
    (hpath : d.locate dir path ≠ .ok i) : d'.contentAt dir path = d.contentAt dir path := by
  unfold Disk.contentAt
  rw [h.tree.locate]
  cases hl : d.locate dir path with
  | error e => rfl
  | ok j => simp only [h.others j fun hj => hpath (hj ▸ hl)]

/-! ## The lines that are run -/

namespace Session

/-- The lines that are run, and the machines on which they are. -/
def visited (sh : Session) : List (Nat × String) → Machine → List ((Nat × String) × Machine)
  | [], _ => []
  | row :: rest, m =>
    (row, m) :: match sh.execute row.2 m with
      | (.ok status, m') => if status = 0 then sh.visited rest m' else []
      | (.error _, _) => []

/-- A program that the line starts on the machine does the same whatever the file `i` holds. -/
def Blind (i : Ino) (line : String) (m : Machine) : Prop :=
  ∀ disk, m.disk.Alike i disk → LineStarts (Disk.Alike i) line m { m with disk }

variable (settings : Settings) {i : Ino}

theorem execute_alike {line : String} {m m' : Machine} (hm : m.Alike i m')
    (hblind : Blind i line m) :
    TwinAt (Machine.Alike i) (({ settings } : Session).execute line) m m' := by
  have hstarts := hblind m'.disk hm.1
  rw [← hm.2] at hstarts
  exact twin_execute (Machine.alike_parallel i) settings hm hstarts

theorem runLines_alike (rows : List (Nat × String)) {m m' : Machine} (hm : m.Alike i m')
    (hblind : ∀ x ∈ ({ settings } : Session).visited rows m, Blind i x.1.2 x.2) :
    (({ settings } : Session).visited rows m').map Prod.fst =
        (({ settings } : Session).visited rows m).map Prod.fst ∧
      TwinAt (Machine.Alike i) (({ settings } : Session).runLines rows) m m' := by
  induction rows generalizing m m' with
  | nil => exact ⟨rfl, _, m, m', rfl, rfl, hm⟩
  | cons row rest ih =>
    obtain ⟨r, n, n', hn, hn', hnn⟩ :=
      execute_alike settings hm (hblind (row, m) List.mem_cons_self)
    unfold TwinAt
    rw [runLines, visited, visited]
    cases r with
    | error e =>
      rw [bind_error hn, bind_error hn', hn, hn']
      exact ⟨rfl, _, n, n', rfl, rfl, hnn⟩
    | ok status =>
      rw [bind_ok hn, bind_ok hn', hn, hn']
      by_cases hzero : status = 0
      · subst hzero
        have hrest := ih hnn fun x hx => hblind x (by
          rw [visited, hn]
          exact List.mem_cons_of_mem _ hx)
        simp only [List.map_cons, if_true, List.cons.injEq, true_and]
        exact hrest
      · simp only [if_neg hzero]
        exact ⟨rfl, _, n, n', rfl, rfl, hnn⟩

end Session

/-! ## Scripts -/

namespace Machine

def withText (m : Machine) (i rights : Nat) (text : List Char) : Machine :=
  { m with disk := m.disk.setNode i (.regular (Utf8.encode (String.ofList text)) rights) }

/-- The lines of the script at a path that are to run: none if it cannot be read. -/
def script (m : Machine) (path : String) : List (Nat × String) :=
  if Disk.isPathText path then
    match m.disk.contentAt m.cwd path with
    | .ok content =>
      match Utf8.decodeFile content with
      | .ok text => scriptLines text
      | .error _ => []
    | .error _ => []
  else []

section Script

variable {m : Machine} {path : String} {i rights : Nat} {content : Bytes}
  (hl : m.disk.locate m.cwd path = .ok i) (hf : m.disk.file? i = some (content, rights))

include hf

theorem withText_alike (text text' : List Char) :
    (m.withText i rights text).Alike i (m.withText i rights text') := by
  have hn := Disk.file?_eq_some.mp hf
  exact ⟨(Disk.alike_refl i m.disk).contents hn hn _ _, rfl⟩

include hl

theorem withText_contentAt (text : List Char) :
    (m.withText i rights text).disk.contentAt m.cwd path =
      if Right.read.isIn rights then .ok (Utf8.encode (String.ofList text))
      else .error .accessDenied := by
  have hc := Disk.setNode_changes hf (Utf8.encode (String.ofList text))
  have hl' := (hc.tree.locate m.cwd path).trans hl
  have hn : (m.withText i rights text).disk.node? i =
      some (.regular (Utf8.encode (String.ofList text)) rights) := by
    obtain ⟨before, rights', hbefore, hafter⟩ := hc.file
    cases hf.symm.trans hbefore
    exact Disk.file?_eq_some.mp hafter
  unfold Disk.contentAt
  rw [show (m.withText i rights text).disk.locate m.cwd path = .ok i from hl']
  simp only [hn]

theorem script_withText (text : List Char) :
    (m.withText i rights text).script path =
      if Disk.isPathText path = true ∧ Right.read.isIn rights = true then scriptLines text
      else [] := by
  have hcwd : (m.withText i rights text).cwd = m.cwd := rfl
  have hread := Utf8.decodeFile_encode (String.ofList text)
  rw [String.toList_ofList] at hread
  unfold script
  rw [hcwd, withText_contentAt hl hf]
  cases Disk.isPathText path with
  | false => rfl
  | true =>
    cases Right.read.isIn rights with
    | false => rfl
    | true => simp only [if_true, hread, and_self]

theorem runScript_withText (sh : Session) (text : List Char) :
    sh.runScript path (m.withText i rights text) =
      if Disk.isPathText path then
        if Right.read.isIn rights then
          sh.runLines (scriptLines text) (m.withText i rights text)
        else (.ok (1, some (.unreadable path Errno.accessDenied.text)), m.withText i rights text)
      else (.error (.fault .nullByte), m.withText i rights text) := by
  have hcwd : (m.withText i rights text).cwd = m.cwd := rfl
  have hread := Utf8.decodeFile_encode (String.ofList text)
  rw [String.toList_ofList] at hread
  rw [Session.runScript, bind_ok (get_apply _), hcwd, withText_contentAt hl hf]
  cases Disk.isPathText path with
  | false => rfl
  | true =>
    cases Right.read.isIn rights with
    | false => rfl
    | true => simp only [Bool.not_true, Bool.false_eq_true, if_false, if_true, hread]

end Script

end Machine

namespace Session

variable (settings : Settings)

theorem runScript_alike {m : Machine} {path : String} {i rights : Nat} {content : Bytes}
    (hl : m.disk.locate m.cwd path = .ok i) (hf : m.disk.file? i = some (content, rights))
    {text text' : List Char} (hlines : scriptLines text' = scriptLines text)
    (hblind : ∀ x ∈ ({ settings } : Session).visited ((m.withText i rights text).script path)
      (m.withText i rights text), Blind i x.1.2 x.2) :
    (m.withText i rights text').script path = (m.withText i rights text).script path ∧
      (({ settings } : Session).visited ((m.withText i rights text').script path)
          (m.withText i rights text')).map Prod.fst =
        (({ settings } : Session).visited ((m.withText i rights text).script path)
          (m.withText i rights text)).map Prod.fst ∧
      TwinAt (Machine.Alike i) (({ settings } : Session).runScript path) (m.withText i rights text)
        (m.withText i rights text') := by
  have halike := Machine.withText_alike hf text text'
  have hscript := Machine.script_withText hl hf text
  have hscript' : (m.withText i rights text').script path =
      (m.withText i rights text).script path := by
    rw [hscript, Machine.script_withText hl hf, hlines]
  obtain ⟨hvisited, htwin⟩ := runLines_alike settings _ halike hblind
  refine ⟨hscript', by rw [hscript', hvisited], ?_⟩
  unfold TwinAt
  rw [Machine.runScript_withText hl hf, Machine.runScript_withText hl hf, hlines]
  split
  · next hpath =>
    split
    · next hread =>
      rw [hscript, if_pos ⟨hpath, hread⟩] at htwin
      exact htwin
    · exact ⟨_, _, _, rfl, rfl, halike⟩
  · exact ⟨_, _, _, rfl, rfl, halike⟩

/-- What ends the lines of a script makes no difference to what it does, as long as no program that
it starts looks into the script. -/
theorem script_endings {m : Machine} {path : String} {i rights : Nat} {content : Bytes}
    (hl : m.disk.locate m.cwd path = .ok i) (hf : m.disk.file? i = some (content, rights))
    {rows rows' : List Newline.Row} (hlines : rows'.map (·.line) = rows.map (·.line))
    (hplain : ∀ row ∈ rows, row.IsPlain) (hs : Newline.Separates rows)
    (hs' : Newline.Separates rows') :
    let sh : Session := { settings }
    let before := m.withText i rights (Newline.joined rows)
    let before' := m.withText i rights (Newline.joined rows')
    let run := sh.runScript path before
    let run' := sh.runScript path before'
    (∀ x ∈ sh.visited (before.script path) before, Blind i x.1.2 x.2) →
      before'.script path = before.script path ∧
        (sh.visited (before'.script path) before').map Prod.fst =
          (sh.visited (before.script path) before).map Prod.fst ∧
        run'.1 = run.1 ∧ run'.2 = { run.2 with disk := run'.2.disk } ∧
        (∀ j, j ≠ i → run'.2.disk.node? j = run.2.disk.node? j) ∧
        ∀ dir name, run'.2.disk.locate dir name = run.2.disk.locate dir name ∧
          (run.2.disk.locate dir name ≠ .ok i →
            run'.2.disk.contentAt dir name = run.2.disk.contentAt dir name) := by
  intro sh before before' run run' hblind
  have hplain' : ∀ row ∈ rows', row.IsPlain := by
    intro row hrow
    have hmem : row.line ∈ rows.map (·.line) := hlines ▸ List.mem_map_of_mem hrow
    obtain ⟨same, hsame, hline⟩ := List.mem_map.mp hmem
    rw [Newline.Row.IsPlain, ← hline]
    exact hplain same hsame
  have hsame : scriptLines (Newline.joined rows') = scriptLines (Newline.joined rows) := by
    rw [scriptLines_joined hplain' hs', scriptLines_joined hplain hs]
    exact congrArg numbered hlines
  obtain ⟨hscript, hvisited, r, n, n', hn, hn', halike, hrest⟩ :=
    runScript_alike settings hl hf hsame hblind
  have hrun : run = (r, n) := hn
  have hrun' : run' = (r, n') := hn'
  rw [hrun, hrun']
  exact ⟨hscript, hvisited, rfl, hrest, halike.others, fun dir name =>
    ⟨halike.tree.locate dir name, halike.contentAt⟩⟩

theorem blind_builtin {i : Ino} {line : String} {c : Command}
    (hparse : (Line.parse line).command? = .ok (some c))
    (hname : Builtin.handlers.lookup c.name ≠ none) (m : Machine) : Blind i line m := by
  intro disk _ c' hparse' hlookup
  cases hparse.symm.trans hparse'
  exact absurd hlookup hname

def scriptMachine : Machine where
  disk := ⟨#[.directory Disk.root [("s", 1)], .regular [] 0o644]⟩

def failingRows (first second last : Newline.Ending) : List Newline.Row :=
  [⟨"echo a".toList, first⟩, ⟨[], second⟩, ⟨"exit".toList, last⟩]

def failingMachine (first second last : Newline.Ending) : Machine :=
  scriptMachine.withText 1 0o644 (Newline.joined (failingRows first second last))

theorem script_endings_failing :
    (({} : Session).runScript "s" (failingMachine .feed .feed .missing)).1 =
        .ok (1, some (.failed 3 1)) ∧
      (({} : Session).runScript "s" (failingMachine .carriage .both .carriage)).1 =
        .ok (1, some (.failed 3 1)) ∧
      (({} : Session).runScript "s" (failingMachine .carriage .both .carriage)).2.out.text =
        "a\n" := by
  have hplain : ∀ row ∈ failingRows .feed .feed .missing, row.IsPlain := by
    simp [failingRows, Newline.Row.IsPlain]
  have hs : Newline.Separates (failingRows .feed .feed .missing) := by
    simp [failingRows, Newline.Separates]
  have hs' : Newline.Separates (failingRows .carriage .both .carriage) := by
    simp [failingRows, Newline.Separates, Newline.Row.IsFeed]
  have hvisited : (({} : Session).visited ((failingMachine .feed .feed .missing).script "s")
      (failingMachine .feed .feed .missing)).map Prod.fst = [(1, "echo a"), (3, "exit")] := by
    decide +kernel
  have hblind : ∀ x ∈ ({} : Session).visited ((failingMachine .feed .feed .missing).script "s")
      (failingMachine .feed .feed .missing), Blind 1 x.1.2 x.2 := by
    intro x hx
    have hline := List.mem_map_of_mem (f := Prod.fst) hx
    rw [hvisited] at hline
    simp only [List.mem_cons, List.not_mem_nil, or_false] at hline
    have hecho : (Line.parse "echo a").command? = .ok (some { name := "echo", args := ["a"] }) :=
      rfl
    have hexit : (Line.parse "exit").command? = .ok (some { name := "exit" }) := rfl
    rcases hline with h | h
    · rw [h]
      exact blind_builtin hecho (by decide) x.2
    · rw [h]
      exact blind_builtin hexit (by decide) x.2
  have hrun : (({} : Session).runScript "s" (failingMachine .feed .feed .missing)).1 =
      .ok (1, some (.failed 3 1)) := by
    decide +kernel
  have hl : scriptMachine.disk.locate scriptMachine.cwd "s" = .ok 1 := rfl
  have hf : scriptMachine.disk.file? 1 = some ([], 0o644) := rfl
  have hlines : (failingRows .carriage .both .carriage).map (·.line) =
      (failingRows .feed .feed .missing).map (·.line) := rfl
  obtain ⟨-, -, hresult, hmachine, -⟩ := script_endings {} hl hf hlines hplain hs hs' hblind
  have hout : (({} : Session).runScript "s" (failingMachine .feed .feed .missing)).2.out.text =
      "a\n" := by
    decide +kernel
  dsimp only at hresult hmachine
  refine ⟨hrun, hresult.trans hrun, ?_⟩
  rw [← hout, failingMachine, hmachine, failingMachine]

end Session

end CommandShell
