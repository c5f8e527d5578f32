import CommandShell.Proofs.File.Handle
import CommandShell.Sink

/-! # The steps of a sink, by what it writes to -/

namespace CommandShell

/-- Two machines with the same files and the same consoles. -/
structure Machine.Agrees (m m' : Machine) : Prop where
  disk : m'.disk = m.disk
  console : ∀ stream, m'.console stream = m.console stream

namespace Sink

theorem write_console {s : Sink} (hopen : s.closed = false) (ho : s.outlet = .console)
    (text : String) (m : Machine) :
    write text s m =
      (.ok text.length, s, if text.isEmpty then m else m.print s.stream text) := by
  unfold write
  by_cases ht : text = ""
  · simp [ht]
  · simp [ht, hopen, ho]

section File

variable {s : Sink} {m : Machine} {h h' : Handle} {d' : Disk} (hopen : s.closed = false)
  (ho : s.outlet = .file h)

theorem onHandle_ok {step : Handle.Step} (hs : step (h, m.disk) = (.ok (), h', d')) :
    s.onHandle h step m = (.ok (), { s with outlet := .file h' }, { m with disk := d' }) := by
  rw [onHandle, hs]
  rfl

theorem onHandle_error {step : Handle.Step} {e : Errno}
    (hs : step (h, m.disk) = (.error e, h', d')) :
    s.onHandle h step m =
      (.error (.system e none), { s with outlet := .file h' }, { m with disk := d' }) := by
  rw [onHandle, hs]
  rfl

include hopen ho

theorem write_ok {text : String} (ht : text ≠ "")
    (hs : Handle.write (Utf8.encode text) (h, m.disk) = (.ok (), h', d')) :
    write text s m =
      (.ok text.length, { s with outlet := .file h' }, { m with disk := d' }) := by
  simp [write, ht, hopen, ho, onHandle_ok hs]

theorem write_error {text : String} {e : Errno} (ht : text ≠ "")
    (hs : Handle.write (Utf8.encode text) (h, m.disk) = (.error e, h', d')) :
    write text s m =
      (.error (.system e none), { s with outlet := .file h' }, { m with disk := d' }) := by
  simp [write, ht, hopen, ho, onHandle_error hs]

theorem flush_ok (hs : Handle.flush (h, m.disk) = (.ok (), h', d')) :
    flush s m = (.ok (), { s with outlet := .file h' }, { m with disk := d' }) := by
  simp [flush, hopen, ho, onHandle_ok hs]

theorem flush_error {e : Errno} (hs : Handle.flush (h, m.disk) = (.error e, h', d')) :
    flush s m =
      (.error (.system e none), { s with outlet := .file h' }, { m with disk := d' }) := by
  simp [flush, hopen, ho, onHandle_error hs]

end File

theorem flush_other {s : Sink} (ho : ∀ h, s.outlet ≠ .file h) (m : Machine) :
    flush s m = (.ok (), s, m) := by
  unfold flush
  cases hs : s.outlet with
  | file h => exact absurd hs (ho h)
  | _ => rfl

theorem close_flushed {s s' : Sink} {m m' : Machine} (hopen : s.closed = false)
    (hf : flush s m = (.ok (), s', m')) : ∃ s'', close s m = (.ok (), s'', m') := by
  simp only [close, hopen, hf, Bool.false_eq_true, if_false]
  cases s'.outlet <;> exact ⟨_, rfl⟩

theorem close_unflushed {s s' : Sink} {m m' : Machine} {f : Fault} (hopen : s.closed = false)
    (hf : flush s m = (.error f, s', m')) : close s m = (.error f, s', m') := by
  simp [close, hopen, hf]

end Sink

end CommandShell
