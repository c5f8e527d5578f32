import CommandShell.Proofs.Disk.Sound
import CommandShell.Proofs.File.Spares
import CommandShell.Proofs.Line.Parsed
import CommandShell.Proofs.Session.Frame
import CommandShell.Proofs.Session.Said

/-!
# What a line leaves untouched

A line without a command leaves everything as it is but the error console. A builtin changes no file
but those that its streams go to in the end, and says nothing on the console of a stream that has
gone to a file.
-/

open CommandShell.Effect CommandShell.Scene

namespace CommandShell

namespace Command

/-- A stream of the command goes to the path. -/
def Aims (c : Command) (path : String) : Prop := ∃ stream, (c.target stream).path? = some path

/-- The target of the stream is opened when the command is run. That of the errors comes last. -/
inductive Opens (c : Command) (m : Machine) : Stream → Prop
  | out {out : Sink} {m₁ : Machine} :
      Sink.ofTarget .out c.out m = .ok (out, m₁) → Opens c m .out
  | err {out err : Sink} {m₁ m₂ : Machine} :
      Sink.ofTarget .out c.out m = .ok (out, m₁) → Sink.ofTarget .err c.err m₁ = .ok (err, m₂) →
      Opens c m .err

end Command

/-! ## Files -/

variable {among : String → Prop} {cwd : Ino}

theorem Scene.goes_spares {s s' : Scene} {rows : List (Stream × String)} (h : s.Goes rows s')
    (hs : s.machine.disk.Sound)
    (hstick : ∀ stream, (s.sink stream).Sticks among cwd s.machine.disk) :
    s.machine.disk.Spares among cwd s'.machine.disk := by
  induction h with
  | rests s => exact Disk.spares_refl hs
  | @step s s' stream texts sink m rows hdoes _ ih =>
    obtain ⟨hspares, hsink⟩ := Sink.does_spares hdoes hs (hstick stream)
    rw [replace_machine] at ih
    refine hspares.trans (ih hspares.sound fun other => ?_)
    by_cases ho : other = stream
    · rwa [ho, replace_sink]
    · rw [replace_sink_ne s ho]
      exact Sink.sticks_spares (hstick other) hspares

namespace Session

variable {c : Command} {handler : Handler} {deed : String → Machine → Deed} {m : Machine}

theorem turned_disk (f : Fault) (m : Machine) : (turned f m).2.disk = m.disk := by
  cases f <;> rfl

theorem runBuiltin_spares (hl : Builtin.deeds.lookup c.name = some deed) (hd : handler.Does deed)
    (hs : m.disk.Sound) : m.disk.Spares c.Aims m.cwd (runBuiltin c handler m).2.disk := by
  cases ho : Sink.ofTarget .out c.out m with
  | error f =>
    rw [runBuiltin_unopened ho, turned_disk]
    exact Disk.spares_refl hs
  | ok opened =>
  obtain ⟨out, m₁⟩ := opened
  have hfirst : ∀ path, c.out.path? = some path → c.Aims path := fun _ hp => ⟨.out, hp⟩
  obtain ⟨hspares₁, hout⟩ := Sink.ofTarget_spares hs hfirst ho
  have hcwd : m₁.cwd = m.cwd := by rw [Sink.ofTarget_disk ho]
  cases he : Sink.ofTarget .err c.err m₁ with
  | error f =>
    rw [runBuiltin_half ho he, turned_disk]
    exact hspares₁
  | ok opened' =>
  obtain ⟨err, m₂⟩ := opened'
  have hlast : ∀ path, c.err.path? = some path → c.Aims path := fun _ hp => ⟨.err, hp⟩
  obtain ⟨hspares₂, herr⟩ := Sink.ofTarget_spares hspares₁.sound hlast he
  rw [hcwd] at hspares₂ herr
  have hm := Builtin.deeds_mild hl (Command.argText c.args) m₂
  obtain ⟨s, hgoes, hmachine⟩ := runBuiltin_goes hd hm ho he
  have hdisk := (Deed.machine_agrees hm).disk
  have hsticks (stream : Stream) : Sink.Sticks c.Aims m.cwd
      (Scene.sink ⟨(deed (Command.argText c.args) m₂).machine m₂, out, err⟩ stream)
      ((deed (Command.argText c.args) m₂).machine m₂).disk := by
    rw [hdisk]
    cases stream with
    | out => exact Sink.sticks_spares hout hspares₂
    | err => exact herr
  have hrest := goes_spares hgoes (hdisk ▸ hspares₂.sound) hsticks
  simp only [hdisk, hmachine] at hrest
  exact hspares₁.trans (hspares₂.trans hrest)

/-! ## Consoles -/

theorem builtinTexts_opened (deed : String → Machine → Deed) {stream : Stream}
    (hopens : c.Opens m stream) (hfile : (c.target stream).isConsole = false) :
    textsOn stream (builtinTexts c deed m) = [] := by
  have hfiltered (rows : List (Stream × String)) :
      textsOn stream (rows.filter fun row => (c.target row.1).isConsole) = [] := by
    simp only [textsOn, List.map_eq_nil_iff, List.filter_filter, List.filter_eq_nil_iff]
    rintro ⟨other, text⟩ -
    by_cases ho : other = stream
    · simp [ho, hfile]
    · simp [ho]
  unfold builtinTexts
  cases hopens with
  | out ho =>
    rw [ho]
    simp only
    split
    · next f _ =>
      -- Only the target of the errors can be in the way, and the report of it is an error.
      cases f <;> rfl
    · exact hfiltered _
  | err ho he =>
    rw [ho]
    simp only [he]
    exact hfiltered _

/-! ## Lines -/

def complained (line : String) (m : Machine) : Machine :=
  match (Line.parse line).waiting with
  | none => m
  | some op => m.print .err (op.missingPath ++ "\n")

theorem afterReading_complained (line : String) (m : Machine) :
    ∃ events, afterReading line m = { complained line m with events } := by
  unfold afterReading complained
  cases (Line.parse line).waiting <;> exact ⟨_, rfl⟩

theorem command?_target {x : Extraction} (h : x.command? = .ok (some c)) (stream : Stream) :
    c.target stream = x.target stream := by
  obtain ⟨-, hout, herr⟩ := command?_parts h
  cases stream
  · exact hout
  · exact herr

theorem execute_spares (settings : Settings) {line : String}
    (hc : (Line.parse line).command? = .ok (some c)) (hn : c.name ∈ Builtin.names)
    (hs : m.disk.Sound) :
    m.disk.Spares c.Aims m.cwd (({ settings } : Session).execute line m).2.disk := by
  rw [execute_some (read_eq hc m)]
  have hcore := afterReading_core line m
  generalize afterReading line m = m' at hcore
  have hdisk : m'.disk = m.disk := (congrArg Machine.disk hcore :)
  have hcwd : m'.cwd = m.cwd := (congrArg Machine.cwd hcore :)
  rcases Builtin.handlers_deeds c.name with ⟨hh, -⟩ | ⟨handler, deed, hh, hl, hd⟩
  · exact absurd hn (Builtin.lookup_eq_none.mp hh)
  · rw [dispatch_builtin { settings } m' hh, ← hdisk, ← hcwd]
    rw [← hdisk] at hs
    exact runBuiltin_spares (m := m'.note (.builtin c.name c.args)) hl hd hs

theorem execute_quiet (settings : Settings) {line : String} {stream : Stream}
    (hc : (Line.parse line).command? = .ok (some c)) (hn : c.name ∈ Builtin.names)
    (hopens : c.Opens m stream) (hfile : (c.target stream).isConsole = false) :
    (({ settings } : Session).execute line m).2.console stream =
      (complained line m).console stream := by
  have hnothing : textsOn stream (texts c m) = [] := by
    rcases Builtin.handlers_deeds c.name with ⟨hh, -⟩ | ⟨handler, deed, -, hl, -⟩
    · exact absurd hn (Builtin.lookup_eq_none.mp hh)
    · rw [texts, hl]
      exact builtinTexts_opened deed hopens hfile
  have htexts : textsOn stream (lineTexts line m) = textsOn stream (complaints line) := by
    rw [lineTexts, hc, textsOn_append]
    simp only [hnothing, List.append_nil]
  obtain ⟨events, hread⟩ := afterReading_complained line m
  have hsame : (afterReading line m).console stream = (complained line m).console stream := by
    rw [hread]
    generalize complained line m = m'
    cases stream <;> rfl
  rw [execute_shows settings line m stream, htexts, ← hsame, read_shows line m stream]

/-- A line has no command when none of its words is read as one of a command, and its syntax error
is that its last word is read as an operator. Without a command that error is all that comes of the
line. With a builtin no file changes but the ones that the last redirections name, and where such a
file was opened the error is all that comes to the console. -/
theorem execute_untouched (settings : Settings) (line : String) (m : Machine) :
    let sh : Session := { settings }
    let words := Line.words line
    let x := Line.parse line
    let after := (sh.execute line m).2
    (x.command? = .ok none ↔ ∀ i, roleAt words i ≠ some .word) ∧
      (∀ op, x.waiting = some op ↔
        ∃ i, i + 1 = words.length ∧ roleAt words i = some (.operator op)) ∧
      (x.command? = .ok none →
        ∃ events, sh.execute line m = (.ok 0, { complained line m with events })) ∧
      ∀ c, x.command? = .ok (some c) → c.name ∈ Builtin.names →
        (∀ stream, Redirected words stream (c.target stream)) ∧
        (m.disk.Sound → ∀ dir path,
          (∀ i, m.disk.place .use dir path = .ok (.found i) →
            after.disk.place .use dir path = .ok (.found i)) ∧
          ((∀ target, c.Aims target → m.disk.sameFile m.cwd target dir path = false) →
            after.disk.fileAt? dir path = m.disk.fileAt? dir path)) ∧
        ∀ stream, c.Opens m stream → (c.target stream).isConsole = false →
          after.console stream = (complained line m).console stream := by
  dsimp only
  refine ⟨command?_none_iff, (waiting_run _).2, fun hc => ?_, fun c hc hn => ⟨?_, ?_, ?_⟩⟩
  · obtain ⟨events, hread⟩ := afterReading_complained line m
    exact ⟨events, by rw [← hread, execute_none (read_eq hc m)]⟩
  · intro stream
    rw [command?_target hc]
    exact extract_redirected (Line.words line) stream
  · intro hs dir path
    have hspares := execute_spares settings hc hn hs
    exact ⟨fun _ => hspares.places, hspares.files dir path⟩
  · exact fun _ => execute_quiet settings hc hn

def heldMachine : Machine where
  disk := ⟨#[.directory Disk.root [("f", 1)], .regular [0x68, 0x69] 0o644]⟩

def hiToG : Command := { name := "echo", args := ["hi"], out := .file "g" .overwrite }

theorem execute_untouched_superseded :
    (∃ events, ({} : Session).execute "> f 2>>" heldMachine =
      (.ok 0,
        { heldMachine.print .err "Syntax error: missing filename for append\n" with events })) ∧
      (({} : Session).execute "echo hi > f > g" heldMachine).2.disk.fileAt? Disk.root "f" =
        some ([0x68, 0x69], 0o644) ∧
      (({} : Session).execute "echo hi > f > g" heldMachine).2.console .out = {} := by
  obtain ⟨-, -, hnone, -⟩ := execute_untouched {} "> f 2>>" heldMachine
  obtain ⟨-, -, -, hsome⟩ := execute_untouched {} "echo hi > f > g" heldMachine
  obtain ⟨-, hfiles, hquiet⟩ := hsome hiToG rfl (by decide)
  have hother : ∀ target, hiToG.Aims target →
      heldMachine.disk.sameFile heldMachine.cwd target Disk.root "f" = false := by
    rintro target ⟨_ | _, haims⟩
    · cases haims
      decide
    · cases haims
  have hopens : hiToG.Opens heldMachine .out :=
    @Command.Opens.out _ _ _ { heldMachine with disk := _ } rfl
  have hcomplete : complained "echo hi > f > g" heldMachine = heldMachine := by
    have hwaiting : (Line.parse "echo hi > f > g").waiting = none := rfl
    rw [complained, hwaiting]
  have hconsole := hquiet .out hopens rfl
  rw [hcomplete] at hconsole
  exact ⟨hnone rfl, ((hfiles (by decide) Disk.root "f").2 hother).trans rfl, hconsole⟩

end Session

end CommandShell
