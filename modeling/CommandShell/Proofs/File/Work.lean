import CommandShell.Proofs.File.Handle
import CommandShell.Sink

/-!
# What the steps of a sink do

A step of a handle moves bytes between its stores and emits some of them, once or again. A step of a
sink prints on the console, adds to the text in memory, or works on the handle like that; whether it
fails or not, there is nothing else that it does.
-/

open CommandShell.Effect

namespace CommandShell

/-! ## Handles -/

namespace Handle

/-- Bytes were moved between the stores of a handle and emitted, with success or without. -/
inductive Works (a : Handle × Disk) : Handle × Disk → Prop
  | rests : Works a a
  | stores {h : Handle} {d : Disk} (text block : Bytes) :
      Works a (h, d) → Works a ({ h with text, block }, d)
  | emits {b : Handle × Disk} (bytes : Bytes) : Works a b → Works a (emit bytes b).2

theorem Works.trans ⦃a b c : Handle × Disk⦄ (h : Works a b) (h' : Works b c) : Works a c := by
  induction h' with
  | rests => exact h
  | stores text block _ ih => exact .stores text block ih
  | emits bytes _ ih => exact .emits bytes ih

theorem works_emit (bytes : Bytes) : Effect.Keeps Works (emit bytes) := fun _ => .emits bytes .rests

theorem works_flushBlock : Effect.Keeps Works flushBlock := by
  rintro ⟨h, d⟩
  have hemit := works_emit h.block (h, d)
  simp only [flushBlock]
  split
  · exact .rests
  · rcases hrun : emit h.block (h, d) with ⟨r, h', d'⟩
    rw [hrun] at hemit
    cases r with
    | error e => exact hemit
    | ok _ => exact .stores h'.text [] hemit

theorem works_fill (bytes : Bytes) : Effect.Keeps Works (fill bytes) := by
  rintro ⟨h, d⟩
  have hflush := works_flushBlock (h, d)
  simp only [fill]
  split
  · exact .stores h.text _ .rests
  · rcases hrun : flushBlock (h, d) with ⟨r, h', d'⟩
    rw [hrun] at hflush
    cases r with
    | error e => exact hflush
    | ok _ =>
      simp only
      split
      · exact .emits bytes hflush
      · exact .stores h'.text bytes hflush

theorem works_handOn : Effect.Keeps Works handOn := by
  rintro ⟨h, d⟩
  have hempty : Works (h, d) ({ h with text := [] }, d) := .stores [] h.block .rests
  simp only [handOn]
  split
  · exact .rests
  · exact hempty.trans (works_fill h.text _)

theorem works_stash (bytes : Bytes) : Effect.Keeps Works (stash bytes) := by
  rintro ⟨h, d⟩
  have hstored : Works (h, d) ({ h with text := h.text ++ bytes }, d) :=
    .stores (h.text ++ bytes) h.block .rests
  rw [stash_eq]
  split
  · exact hstored.trans (works_handOn _)
  · exact hstored

theorem works_write (bytes : Bytes) : Effect.Keeps Works (write bytes) := by
  rintro ⟨h, d⟩
  rw [write_eq]
  split
  · exact keeps_bind Works.trans works_handOn (fun _ => works_stash bytes) _
  · exact works_stash bytes _

theorem works_flush : Effect.Keeps Works flush :=
  keeps_bind Works.trans works_handOn fun _ => works_flushBlock

end Handle

/-! ## Sinks -/

namespace Sink

/-- What a step does to a sink and its machine, with the texts that it prints. -/
inductive Does (s : Sink) (m : Machine) : List String → Sink → Machine → Prop
  | rests : Does s m [] s m
  | prints {text : String} : s.outlet = .console → s.closed = false → text ≠ "" →
      Does s m [text] s (m.print s.stream text)
  | remembers {before : String} (after : String) : s.outlet = .memory before →
      Does s m [] { s with outlet := .memory after } m
  | works {h h' : Handle} {d' : Disk} (closed : Bool) : s.outlet = .file h → s.closed = false →
      Handle.Works (h, m.disk) (h', d') →
      Does s m [] { s with outlet := .file h', closed } { m with disk := d' }

def spoken (s : Sink) (text : String) : List String :=
  if s.outlet = .console ∧ s.closed = false ∧ text ≠ "" then [text] else []

variable (s : Sink) (m : Machine)

theorem does_onHandle {h : Handle} (ho : s.outlet = .file h) (hopen : s.closed = false)
    {step : Handle.Step} (hstep : Effect.Keeps Handle.Works step) :
    s.Does m [] (s.onHandle h step m).2.1 (s.onHandle h step m).2.2 := by
  have hworks := hstep (h, m.disk)
  have hclosed (outlet : Outlet) : { s with outlet, closed := false } = { s with outlet } := by
    rw [← hopen]
  rw [onHandle]
  rcases hrun : step (h, m.disk) with ⟨r, h', d'⟩
  rw [hrun] at hworks
  simpa only [hclosed] using Does.works false ho hopen hworks

theorem does_write (text : String) :
    s.Does m (s.spoken text) (write text s m).2.1 (write text s m).2.2 := by
  by_cases ht : text = ""
  · subst ht
    simpa [spoken, write] using Does.rests
  cases hopen : s.closed with
  | true => simpa [spoken, write, ht, hopen] using Does.rests
  | false =>
    cases ho : s.outlet with
    | console => simpa [spoken, write, ht, hopen, ho] using Does.prints ho hopen ht
    | memory before => simpa [spoken, write, ht, hopen, ho] using Does.remembers _ ho
    | file h =>
      have hdoes := does_onHandle s m ho hopen (Handle.works_write (Utf8.encode text))
      rcases hrun : s.onHandle h (Handle.write (Utf8.encode text)) m with ⟨r, s', m'⟩
      rw [hrun] at hdoes
      cases r <;> simpa [spoken, write, ht, hopen, ho, hrun] using hdoes

theorem does_flush : s.Does m [] (flush s m).2.1 (flush s m).2.2 := by
  unfold flush
  split
  · next h ho =>
    split
    · exact .rests
    · next hopen => exact does_onHandle s m ho (by simpa using hopen) Handle.works_flush
  · exact .rests

theorem does_close : s.Does m [] (close s m).2.1 (close s m).2.2 := by
  have hflush := does_flush s m
  unfold close
  split
  · exact .rests
  · next hopen =>
    rcases hrun : flush s m with ⟨r, s', m'⟩
    rw [hrun] at hflush
    cases r with
    | error f => exact hflush
    | ok _ =>
      simp only
      split
      · next h' ho' =>
        -- A file sink that was flushed was left as it is, or its handle has worked.
        cases hflush with
        | rests =>
          have hs : { s' with closed := true } =
              { s' with outlet := .file h', closed := true } := by rw [← ho']
          simp only [hs]
          exact .works true ho' (by simpa using hopen) .rests
        | remembers after _ => cases ho'
        | works closed ho hs hworks => exact .works true ho hs hworks
      · exact hflush

theorem does_abandon : ∃ s', s.Does m [] s' (s.abandon m) := by
  unfold abandon
  split
  · exact ⟨s, .rests⟩
  · exact ⟨_, does_flush s m⟩

end Sink

end CommandShell
