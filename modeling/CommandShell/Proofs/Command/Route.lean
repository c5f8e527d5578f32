import CommandShell.Capture
import CommandShell.Proofs.Effect

/-!
# The output of a program on its way

A text that a program wrote is printed or written into a file of its own opening. What the system
refuses there is reported; only a path with U+0000 in it is a fault.
-/

open CommandShell.Effect

namespace CommandShell

def Target.HasNullByte (t : Target) : Prop :=
  ∃ path, t.path? = some path ∧ Disk.isPathText path = false

theorem writeFile_null {path : String} (h : Disk.isPathText path = false) (m : Machine)
    (text : String) (mode : OpenMode) : m.writeFile path text mode = (.error .nullByte, m) := by
  simp [Machine.writeFile, h]

section Opened

variable {path : String} (mode : OpenMode) (text : String) (m : Machine)
  (hn : Disk.isPathText path = true)

include hn

theorem writeFile_opened {h h' h'' : Handle} {d d' d'' : Disk} {written flushed : Except Errno Unit}
    (ho : Handle.openAt m.disk m.cwd path mode = .ok (h, d))
    (hw : Handle.write (Utf8.encode text) (h, d) = (written, h', d'))
    (hf : Handle.flush (h', d') = (flushed, h'', d'')) :
    m.writeFile path text mode =
      ((do flushed; written).mapError (Fault.system · none), { m with disk := d'' }) := by
  simp [Machine.writeFile, hn, ho, hw, hf]

theorem writeFile_unopened {e : Errno} (ho : Handle.openAt m.disk m.cwd path mode = .error e) :
    m.writeFile path text mode = (.error (.system e (some path)), m) := by
  simp [Machine.writeFile, hn, ho]

theorem writeFile_ends :
    ∃ r m', m.writeFile path text mode = (r, m') ∧
      (r = .ok () ∨ ∃ e path?, r = .error (.system e path?)) := by
  cases ho : Handle.openAt m.disk m.cwd path mode with
  | error e => exact ⟨_, m, writeFile_unopened mode text m hn ho, Or.inr ⟨e, some path, rfl⟩⟩
  | ok opened =>
    obtain ⟨h, d⟩ := opened
    rcases hw : Handle.write (Utf8.encode text) (h, d) with ⟨written, h', d'⟩
    rcases hf : Handle.flush (h', d') with ⟨flushed, h'', d''⟩
    refine ⟨_, _, writeFile_opened mode text m hn ho hw hf, ?_⟩
    rcases flushed with e | ⟨⟩
    · exact Or.inr ⟨e, none, rfl⟩
    · rcases written with e | ⟨⟩
      · exact Or.inr ⟨e, none, rfl⟩
      · exact Or.inl rfl

end Opened

theorem writeFile_disk (m : Machine) (path text : String) (mode : OpenMode) :
    ∃ disk, (m.writeFile path text mode).2 = { m with disk } := by
  cases hn : Disk.isPathText path with
  | false => exact ⟨m.disk, by rw [writeFile_null hn]⟩
  | true =>
    cases ho : Handle.openAt m.disk m.cwd path mode with
    | error e => exact ⟨m.disk, by rw [writeFile_unopened mode text m hn ho]⟩
    | ok opened =>
      obtain ⟨h, d⟩ := opened
      rcases hw : Handle.write (Utf8.encode text) (h, d) with ⟨written, h', d'⟩
      rcases hf : Handle.flush (h', d') with ⟨flushed, h'', d''⟩
      exact ⟨d'', by rw [writeFile_opened mode text m hn ho hw hf]⟩

namespace Run

variable {stream : Stream} {t : Target} {text : String} {m m' : Machine}

theorem route_console (h : t.path? = none) :
    route stream t text m = (.ok (), if text.isEmpty then m else m.print stream text) := by
  simp [route, h]

section File

variable {path : String} (hp : t.path? = some path)

include hp

theorem route_written (hw : m.writeFile path text t.mode = (.ok (), m')) :
    route stream t text m = (.ok (), m') := by
  simp only [route, hp]
  rw [bind_ok (get_apply m)]
  simp only [hw]
  rw [bind_ok (set_apply m' m)]
  rfl

theorem route_reported {e : Errno} {path? : Option String}
    (hw : m.writeFile path text t.mode = (.error (.system e path?), m')) :
    route stream t text m = complain s!"Error writing to {path}: {e.text}\n" m' := by
  simp only [route, hp]
  rw [bind_ok (get_apply m)]
  simp only [hw]
  rw [bind_ok (set_apply m' m)]

end File

theorem route_null (h : t.HasNullByte) :
    route stream t text m = (.error (.fault .nullByte), m) := by
  obtain ⟨path, hp, hn⟩ := h
  simp only [route, hp]
  rw [bind_ok (get_apply m), writeFile_null hn]
  rfl

theorem route_ok (h : ¬ t.HasNullByte) (stream : Stream) (text : String) (m : Machine) :
    ∃ m', route stream t text m = (.ok (), m') := by
  cases hp : t.path? with
  | none => exact ⟨_, route_console hp⟩
  | some path =>
    have hn : Disk.isPathText path = true := by
      rw [← Bool.not_eq_false]
      exact fun hn => h ⟨path, hp, hn⟩
    obtain ⟨r, m', hw, rfl | ⟨e, path?, rfl⟩⟩ :=
      writeFile_ends t.mode text m hn
    · exact ⟨m', route_written hp hw⟩
    · exact ⟨_, route_reported hp hw⟩

/-! ## Programs -/

variable {name file : String} {args : List String} {path? : Option String}

theorem program_missing (out err : Target) (h : m.lookUp name path? = (none, m')) :
    program name args out err path? m = (.error (.fault (.notFound name)), m') := by
  rw [program, bind_ok (get_apply m)]
  simp only [h]
  rw [bind_ok (set_apply m' m)]
  rfl

theorem program_unstarted (out err : Target) {f : Fault}
    (h : m.lookUp name path? = (some file, m'))
    (hs : m'.start file (name :: args) = .error f) :
    program name args out err path? m = (.error (.fault f), m') := by
  rw [program, bind_ok (get_apply m)]
  simp only [h]
  rw [bind_ok (set_apply m' m)]
  simp only [hs]
  rfl

theorem program_started (out err : Target) {started : String × Finished}
    (h : m.lookUp name path? = (some file, m'))
    (hs : m'.start file (name :: args) = .ok started) :
    program name args out err path? m =
      (do
        route .out out (capturedText started.2.out)
        route .err err (capturedText started.2.err)
        return started.2.status : Run Int)
        ({ m' with disk := started.2.disk }.note (.ended file started.2.status)) := by
  rw [program, bind_ok (get_apply m)]
  simp only [h]
  rw [bind_ok (set_apply m' m)]
  simp only [hs]
  rfl

end Run

end CommandShell
