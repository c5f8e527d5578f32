import CommandShell.Proofs.File.Spares
import CommandShell.Proofs.Session.Exit
import CommandShell.Proofs.Session.Release
import CommandShell.Proofs.Session.Steps

/-!
# Builtins that are turned away

A builtin does not run when one of its targets cannot be opened. The output target is opened first,
so it was created or emptied when the system refuses the error target, and nothing else was done.
-/

namespace CommandShell

/-! ## Targets -/

/-- The system refuses to open the path of a target. -/
structure Target.Refused (t : Target) (m : Machine) (path : String) (e : Errno) : Prop where
  names : t.path? = some path
  isText : Disk.isPathText path = true
  refuses : m.disk.openForWriting m.cwd path t.mode = .error e

/-- Any error of the system can be the one that refuses a target. -/
theorem Target.refused_sealed {t : Target} {m : Machine} {path : String} {e : Errno} {i : Ino}
    (hp : t.path? = some path) (htext : Disk.isPathText path = true)
    (hplace : m.disk.place .create m.cwd path = .ok (.found i))
    (hsealed : m.disk.node? i = some (.device (.sealed e))) : t.Refused m path e where
  names := hp
  isText := htext
  refuses := by rw [Disk.openForWriting, hplace]; simp only [hsealed]

namespace Sink

variable {stream : Stream} {t : Target} {s : Sink} {m m' : Machine} {path reason : String}
  {e : Errno}

theorem ofTarget_refused (h : t.Refused m path e) (stream : Stream) :
    ofTarget stream t m = .error (.redirection path e.text) := by
  have hopen : Handle.openAt m.disk m.cwd path t.mode = .error e := by
    rw [Handle.openAt, h.refuses]
    rfl
  simp [ofTarget, toFile, h.names, h.isText, hopen]

theorem ofTarget_starts (h : ofTarget stream t m = .ok (s, m')) (hp : t.path? = some path)
    (hfile : ¬ m.disk.IsDevice m.cwd path) :
    m'.disk.content? m.cwd path = some (Disk.start t.mode (m.disk.content? m.cwd path)) := by
  have hleads := ofTarget_leads h
  rw [Target.Leads, hp] at hleads
  obtain ⟨i, disk, hopen, rfl⟩ := hleads
  obtain ⟨hplace, rights, hf⟩ := hopen.starts hfile
  rw [Disk.content?_found hplace, hf]
  rfl

theorem ofTarget_others (hs : m.disk.Sound) (h : ofTarget stream t m = .ok (s, m')) {dir : Ino}
    (hother : ∀ target, t.path? = some target → m.disk.sameFile m.cwd target dir path = false) :
    m'.disk.fileAt? dir path = m.disk.fileAt? dir path := by
  have hamong : ∀ target, t.path? = some target → (fun x => t.path? = some x) target :=
    fun _ hp => hp
  exact (ofTarget_spares hs hamong h).1.files dir path hother

end Sink

namespace Session

/-! ## Builtins -/

variable {c : Command} {handler : Handler} {m m₁ : Machine} {out : Sink} {path : String} {e : Errno}

theorem turned_redirection (path reason : String) (m : Machine) :
    turned (.redirection path reason) m =
      (.ok 1, m.print .err s!"linesh: {path}: {reason}\n") := rfl

theorem runBuiltin_refused (h : c.out.Refused m path e) :
    runBuiltin c handler m = (.ok 1, m.print .err s!"linesh: {path}: {e.text}\n") ∧
      (visit c handler m).sinks = [] := by
  have ho := Sink.ofTarget_refused h .out
  rw [runBuiltin_unopened ho, turned_redirection, visit_unopened ho]
  exact ⟨rfl, rfl⟩

theorem runBuiltin_refused_half (handler : Handler)
    (ho : Sink.ofTarget .out c.out m = .ok (out, m₁)) (h : c.err.Refused m₁ path e) :
    runBuiltin c handler m = (.ok 1, m₁.print .err s!"linesh: {path}: {e.text}\n") ∧
      ∀ s ∈ (visit c handler m).sinks, ¬ s.Held := by
  have he := Sink.ofTarget_refused h .err
  rw [runBuiltin_half ho he, turned_redirection, visit_half ho he]
  exact ⟨rfl, turnAway_released ho⟩

/-- A builtin whose targets cannot both be opened has no effect of its own, whatever its handler is.
It comes to 1, and the first target that the system refuses is named on the error console. When that
is the error target, the output target was opened and closed: it starts as its mode has it, and
every other file is as before. -/
theorem builtin_refused (c : Command) (handler : Handler) (m : Machine) :
    (∀ {path e}, c.out.Refused m path e →
      runBuiltin c handler m = (.ok 1, m.print .err s!"linesh: {path}: {e.text}\n") ∧
        (visit c handler m).sinks = []) ∧
    ∀ {out m₁ path e}, Sink.ofTarget .out c.out m = .ok (out, m₁) → c.err.Refused m₁ path e →
      runBuiltin c handler m = (.ok 1, m₁.print .err s!"linesh: {path}: {e.text}\n") ∧
        (∀ s ∈ (visit c handler m).sinks, ¬ s.Held) ∧
        m₁ = { m with disk := m₁.disk } ∧
        (∀ target, c.out.path? = some target → ¬ m.disk.IsDevice m.cwd target →
          m₁.disk.content? m.cwd target =
            some (Disk.start c.out.mode (m.disk.content? m.cwd target))) ∧
        (m.disk.Sound → ∀ dir other,
          (∀ target, c.out.path? = some target →
            m.disk.sameFile m.cwd target dir other = false) →
          m₁.disk.fileAt? dir other = m.disk.fileAt? dir other) := by
  refine ⟨runBuiltin_refused, fun {out m₁ path e} ho he => ?_⟩
  obtain ⟨hrun, hclosed⟩ := runBuiltin_refused_half handler ho he
  exact ⟨hrun, hclosed, Sink.ofTarget_disk ho, fun target hp => Sink.ofTarget_starts ho hp,
    fun hs dir other => Sink.ofTarget_others hs ho⟩

def refusingMachine : Machine where
  disk := ⟨#[
    .directory Disk.root [("f", 1), ("d", 2)],
    .regular [97] 0o644,
    .directory Disk.root []]⟩

def refusedExit : Command :=
  { name := "exit", args := ["0"], out := .file "f" .overwrite, err := .file "d" .append }

def refusedCd : Command :=
  { name := "cd", args := ["d"], out := .file "d" .append, err := .file "f" .overwrite }

theorem builtin_refused_directory :
    ((runBuiltin refusedCd Builtin.cd refusingMachine).1 = .ok 1 ∧
      (runBuiltin refusedCd Builtin.cd refusingMachine).2.cwd = Disk.root ∧
      (runBuiltin refusedCd Builtin.cd refusingMachine).2.err.text =
        "linesh: d: Is a directory\n" ∧
      (runBuiltin refusedCd Builtin.cd refusingMachine).2.disk.content? Disk.root "f" =
        some [97]) ∧
    (runBuiltin refusedExit Builtin.exit refusingMachine).1 = .ok 1 ∧
      (runBuiltin refusedExit Builtin.exit refusingMachine).2.err.text =
        "linesh: d: Is a directory\n" ∧
      (runBuiltin refusedExit Builtin.exit refusingMachine).2.disk.content? Disk.root "f" =
        some [] := by
  obtain ⟨hout, -⟩ := builtin_refused refusedCd Builtin.cd refusingMachine
  obtain ⟨-, hhalf⟩ := builtin_refused refusedExit Builtin.exit refusingMachine
  have hcd : refusedCd.out.Refused refusingMachine "d" .isDirectory := ⟨rfl, by decide, rfl⟩
  have hopened : Sink.ofTarget .out refusedExit.out refusingMachine =
      .ok (⟨.out, .file ⟨1, .overwrite, 0, [], []⟩, "f", false⟩,
        { refusingMachine with disk := refusingMachine.disk.setNode 1 (.regular [] 0o644) }) := rfl
  have hexit : refusedExit.err.Refused
      { refusingMachine with disk := refusingMachine.disk.setNode 1 (.regular [] 0o644) } "d"
      .isDirectory := ⟨rfl, by decide, rfl⟩
  obtain ⟨hrun, -⟩ := hout hcd
  obtain ⟨hrun', -, -, hstart, -⟩ := hhalf hopened hexit
  have hfile : ¬ refusingMachine.disk.IsDevice refusingMachine.cwd "f" := by
    rintro ⟨i, device, hplace, hn⟩
    have hi : refusingMachine.disk.place .use refusingMachine.cwd "f" = .ok (.found 1) := rfl
    cases hplace.symm.trans hi
    cases hn
  rw [hrun, hrun']
  exact ⟨⟨rfl, rfl, by decide +kernel, rfl⟩, rfl, by decide +kernel, hstart "f" rfl hfile⟩

end Session

end CommandShell
