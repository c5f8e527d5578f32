import CommandShell.Proofs.Session.Meaning
import CommandShell.Proofs.Session.Steps
import CommandShell.Proofs.Session.Survival

/-!
# What a line leaves alone

A line may change files, write on the consoles and leave records. The environment, the programs and
the working directory stay what they are, except that `cd` may move.
-/

open CommandShell.Effect CommandShell.Scene

namespace CommandShell

/-- The second machine is the first but for files, consoles and records. -/
def Machine.Framed (m m' : Machine) : Prop :=
  { m with disk := m'.disk, out := m'.out, err := m'.err, events := m'.events } = m'

theorem framed_refl (m : Machine) : m.Framed m := rfl

theorem Machine.Framed.trans ⦃m m' m'' : Machine⦄ (h : m.Framed m') (h' : m'.Framed m'') :
    m.Framed m'' := by
  unfold Machine.Framed at *
  rw [← h', ← h]

theorem framed_print (m : Machine) (stream : Stream) (text : String) :
    m.Framed (m.print stream text) := by
  cases stream <;> rfl

/-! ## Sinks -/

namespace Sink

theorem does_framed {s s' : Sink} {m m' : Machine} {texts : List String}
    (h : s.Does m texts s' m') : m.Framed m' := by
  cases h with
  | prints => exact framed_print m s.stream _
  | _ => exact rfl

theorem framed_deliver (s : Sink) (text : String) (m : Machine) : m.Framed (s.deliver text m) := by
  unfold deliver
  split
  · exact framed_print m s.stream text
  · rfl
  · rfl

theorem framed_ofTarget {stream : Stream} {t : Target} {s : Sink} {m m' : Machine}
    (h : ofTarget stream t m = .ok (s, m')) : m.Framed m' := by
  have hm := ofTarget_disk h
  rw [hm]
  rfl

end Sink

theorem Scene.goes_framed {s s' : Scene} {rows : List (Stream × String)} (h : s.Goes rows s') :
    s.machine.Framed s'.machine := by
  induction h with
  | rests s => exact framed_refl s.machine
  | step hdoes _ ih =>
    rw [replace_machine] at ih
    exact (Sink.does_framed hdoes).trans ih

namespace Session

/-! ## Builtins -/

section Builtin

variable {c : Command} {handler : Handler} {deed : String → Machine → Deed} {m m₁ m₂ : Machine}
  {out err : Sink}

theorem opened_framed (ho : Sink.ofTarget .out c.out m = .ok (out, m₁))
    (he : Sink.ofTarget .err c.err m₁ = .ok (err, m₂)) : m.Framed m₂ :=
  (Sink.framed_ofTarget ho).trans (Sink.framed_ofTarget he)

theorem runBuiltin_opened (hd : handler.Does deed)
    (hm : (deed (Command.argText c.args) m₂).IsMild m₂)
    (ho : Sink.ofTarget .out c.out m = .ok (out, m₁))
    (he : Sink.ofTarget .err c.err m₁ = .ok (err, m₂)) :
    ((deed (Command.argText c.args) m₂).machine m₂).Framed (runBuiltin c handler m).2 := by
  obtain ⟨s, hgoes, hmachine⟩ := runBuiltin_goes hd hm ho he
  rw [← hmachine]
  exact goes_framed hgoes

theorem framed_turned {t : Target} {stream : Stream} {f : Fault}
    (h : Sink.ofTarget stream t m = .error f) :
    m.Framed (turned f m).2 ∧
      ((turned f m).1 = .ok 1 ∨ (turned f m).1 = .error (.fault .nullByte)) := by
  rcases Sink.ofTarget_error h with ⟨_, -, -, rfl⟩ | ⟨_, _, -, -, rfl⟩
  · exact ⟨framed_refl m, Or.inr rfl⟩
  · exact ⟨framed_print m .err _, Or.inl rfl⟩

variable (handler) in
theorem runBuiltin_turned {f : Fault}
    (h : Sink.ofTarget .out c.out m = .error f ∨
      ∃ out m₁, Sink.ofTarget .out c.out m = .ok (out, m₁) ∧
        Sink.ofTarget .err c.err m₁ = .error f) :
    m.Framed (runBuiltin c handler m).2 ∧
      ((runBuiltin c handler m).1 = .ok 1 ∨
        (runBuiltin c handler m).1 = .error (.fault .nullByte)) := by
  rcases h with ho | ⟨out, m₁, ho, he⟩
  · rw [runBuiltin_unopened ho]
    exact framed_turned ho
  · rw [runBuiltin_half ho he]
    obtain ⟨hframed, hr⟩ := framed_turned he
    exact ⟨(Sink.framed_ofTarget ho).trans hframed, hr⟩

end Builtin

theorem deeds_framed {name : String} {deed : String → Machine → Deed}
    (h : Builtin.deeds.lookup name = some deed) (hn : name ≠ "cd") (args : String) (m : Machine) :
    m.Framed ((deed args m).machine m) := by
  rcases Builtin.deeds_mem h with ⟨rfl, -⟩ | ⟨-, rfl⟩ | ⟨-, rfl⟩ | ⟨-, rfl⟩ | ⟨-, rfl⟩
  · exact absurd rfl hn
  · exact framed_refl m
  · unfold Builtin.exitDeed
    split <;> exact framed_refl m
  · unfold Builtin.pwdDeed
    split <;> exact framed_refl m
  · unfold Builtin.typeDeed Machine.lookUp
    split
    · exact framed_refl m
    · split
      · exact framed_refl m
      · cases m.findProgram? args none <;> exact rfl

/-! ## Programs -/

theorem framed_pure {α : Type} (a : α) : Keeps Machine.Framed (pure a : Run α) :=
  keeps_pure framed_refl a

theorem framed_bind {α β : Type} {x : Run α} {f : α → Run β} (hx : Keeps Machine.Framed x)
    (hf : ∀ a, Keeps Machine.Framed (f a)) : Keeps Machine.Framed (x >>= f) :=
  keeps_bind Machine.Framed.trans hx hf

theorem keeps_complain (text : String) : Keeps Machine.Framed (Run.complain text) := by
  refine keeps_modify fun m => ?_
  split
  · exact framed_refl m
  · exact framed_print m .err text

theorem keeps_note (e : Event) : Keeps Machine.Framed (Run.note e) := fun _ => rfl

theorem writeFile_framed (m : Machine) (path text : String) (mode : OpenMode) :
    m.Framed (m.writeFile path text mode).2 := by
  obtain ⟨disk, hm⟩ := writeFile_disk m path text mode
  rw [hm]
  rfl

theorem keeps_route (stream : Stream) (t : Target) (text : String) :
    Keeps Machine.Framed (Run.route stream t text) := by
  intro m
  cases hp : t.path? with
  | none =>
    rw [Run.route_console hp]
    simp only
    split
    · exact framed_refl m
    · exact framed_print m stream text
  | some path =>
    have hfile := writeFile_framed m path text t.mode
    by_cases hn : t.HasNullByte
    · rw [Run.route_null hn]
      exact framed_refl m
    · have hpath : Disk.isPathText path = true := by
        rw [← Bool.not_eq_false]
        exact fun h => hn ⟨path, hp, h⟩
      obtain ⟨r, m', hw, rfl | ⟨e, path?, rfl⟩⟩ := writeFile_ends t.mode text m hpath
      · rw [hw] at hfile
        rw [Run.route_written hp hw]
        exact hfile
      · rw [hw] at hfile
        rw [Run.route_reported hp hw]
        exact hfile.trans (keeps_complain _ m')

theorem program_framed {c : Command} {m : Machine} {w : Meaning} (hn : c.name ∉ Builtin.names)
    (h : m.Means c.name w) : m.Framed (w.run c m).2 := by
  cases h with
  | builtin hmem => exact absurd (List.mem_map_of_mem (f := Prod.fst) hmem) hn
  | unknown => exact framed_print _ .err _
  | @program file =>
    have hnoted : m.Framed ((m.note (.external c.name c.args)).note (.resolved c.name file)) := rfl
    simp only [Meaning.run]
    split
    · exact hnoted.trans (framed_print _ .err _)
    · next finished _ =>
      have hended : m.Framed ({ (m.note (.external c.name c.args)).note (.resolved c.name file) with
        disk := finished.disk }.note (.ended file finished.status)) := rfl
      exact hended.trans (framed_bind (keeps_route .out c.out _)
        (fun _ => framed_bind (keeps_route .err c.err _) fun _ => framed_pure finished.status) _)

/-! ## Commands and lines -/

theorem afterReading_framed (line : String) (m : Machine) : m.Framed (afterReading line m) := by
  unfold afterReading
  split
  · exact rfl
  · exact framed_print _ .err _

theorem targets_opened (c : Command) (m : Machine) :
    (∃ out m₁ err m₂, Sink.ofTarget .out c.out m = .ok (out, m₁) ∧
      Sink.ofTarget .err c.err m₁ = .ok (err, m₂)) ∨
      ∃ f, Sink.ofTarget .out c.out m = .error f ∨
        ∃ out m₁, Sink.ofTarget .out c.out m = .ok (out, m₁) ∧
          Sink.ofTarget .err c.err m₁ = .error f := by
  cases ho : Sink.ofTarget .out c.out m with
  | error f => exact Or.inr ⟨f, Or.inl rfl⟩
  | ok opened =>
    obtain ⟨out, m₁⟩ := opened
    cases he : Sink.ofTarget .err c.err m₁ with
    | error f => exact Or.inr ⟨f, Or.inr ⟨out, m₁, rfl, he⟩⟩
    | ok opened' => exact Or.inl ⟨out, m₁, opened'.1, opened'.2, rfl, he⟩

theorem dispatch_framed (settings : Settings) {c : Command} (hn : c.name ≠ "cd") :
    Keeps Machine.Framed (({ settings } : Session).dispatch c) := by
  intro m
  rcases Builtin.handlers_deeds c.name with ⟨hh, -⟩ | ⟨handler, deed, hh, hl, hd⟩
  · obtain ⟨w, hw, -⟩ := means_unique m c.name
    rw [Meaning.dispatch_means settings hw]
    exact program_framed (Builtin.lookup_eq_none.mp hh) hw
  · rw [dispatch_builtin { settings } m hh]
    refine (keeps_note (.builtin c.name c.args) m).trans ?_
    rcases targets_opened c (m.note (.builtin c.name c.args)) with
      ⟨out, m₁, err, m₂, ho, he⟩ | ⟨f, h⟩
    · exact (opened_framed ho he).trans
        ((deeds_framed hl hn _ m₂).trans
          (runBuiltin_opened hd (Builtin.deeds_mild hl _ m₂) ho he))
    · exact (runBuiltin_turned handler h).1

theorem execute_framed (settings : Settings) {line : String}
    (hn : ∀ c, (Line.parse line).command? = .ok (some c) → c.name ≠ "cd") :
    Keeps Machine.Framed (({ settings } : Session).execute line) := by
  intro m
  obtain ⟨c?, hc⟩ := command?_ok line
  have hframed := afterReading_framed line m
  have hread := read_eq hc m
  generalize afterReading line m = m' at hframed hread
  cases c? with
  | none =>
    rw [execute_none hread]
    exact hframed
  | some c =>
    rw [execute_some hread]
    exact hframed.trans (dispatch_framed settings (hn c hc) m')

end Session

end CommandShell
