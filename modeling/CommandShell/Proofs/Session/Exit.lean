import CommandShell.Proofs.Session.Outcome
import CommandShell.Proofs.Session.Survival

/-!
# Leaving the shell

Only `exit` with zero as its one argument leaves the shell, and only when both of its sinks can be
opened. All that is left of it then are the files that it opened.
-/

open CommandShell.Effect

namespace CommandShell

theorem Command.argText_zero (args : List String) :
    Command.argText args = "0" ↔ args = ["0"] := by
  unfold argText
  match args with
  | [] => simp
  | [arg] => simp
  | first :: second :: rest =>
    have hblank : ' ' ∈ (" ".intercalate (first :: second :: rest)).toList := by simp
    refine ⟨fun h => ?_, fun h => by cases h⟩
    rw [h] at hblank
    simp at hblank

/-- The machine that is left when a target was opened: a missing file was created, one that was
there starts as its mode has it, and nothing else was changed. -/
def Target.Leads (t : Target) (m m' : Machine) : Prop :=
  match t.path? with
  | none => m' = m
  | some path => ∃ i disk, m.disk.Opening m.cwd path t.mode i disk ∧ m' = { m with disk }

theorem Sink.ofTarget_leads {stream : Stream} {t : Target} {s : Sink} {m m' : Machine}
    (h : Sink.ofTarget stream t m = .ok (s, m')) : t.Leads m m' := by
  unfold Target.Leads
  cases hp : t.path? with
  | none =>
    simp only [ofTarget, hp] at h
    cases h
    rfl
  | some path =>
    simp only [ofTarget, hp, toFile] at h
    split at h
    · cases h
    · split at h
      · next handle disk ho =>
        cases h
        obtain ⟨i, hopen, -⟩ := Handle.openAt_ok ho
        exact ⟨i, disk, Disk.open_ways hopen, rfl⟩
      · cases h

namespace Session

variable (settings : Settings)

/-- The command is `exit 0`, and its sinks can be opened, which leads from one machine to the
other. -/
structure Departs (c : Command) (m m' : Machine) : Prop where
  name : c.name = "exit"
  args : c.args = ["0"]
  opens : ∃ out m₁ err,
    Sink.ofTarget .out c.out (m.note (.builtin c.name c.args)) = .ok (out, m₁) ∧
      Sink.ofTarget .err c.err m₁ = .ok (err, m')
  leaves : ∃ m₁, c.out.Leads (m.note (.builtin c.name c.args)) m₁ ∧ c.err.Leads m₁ m'

theorem exit_handler {c : Command} (hname : c.name = "exit") :
    ({ settings } : Session).handlers.lookup c.name = some Builtin.exit := by
  rw [hname]
  rfl

theorem dispatch_exits {c : Command} {m : Machine} {status : ExitStatus} {m' : Machine} :
    ({ settings } : Session).dispatch c m = (.error (.exit status), m') ↔
      status = .code 0 ∧ Departs c m m' := by
  -- What the machine is left with is settled by the sinks, as the deed has nothing to write.
  have hleft {out err : Sink} {m₁ m₂ : Machine} (hname : c.name = "exit") (hargs : c.args = ["0"])
      (ho : Sink.ofTarget .out c.out (m.note (.builtin c.name c.args)) = .ok (out, m₁))
      (he : Sink.ofTarget .err c.err m₁ = .ok (err, m₂)) :
      ({ settings } : Session).dispatch c m = (.error (.exit (.code 0)), m₂) := by
    have hdeed : Builtin.exitDeed (Command.argText c.args) m₂ = .leaves (.code 0) :=
      if_pos ((Command.argText_zero c.args).mpr hargs)
    rw [dispatch_builtin { settings } m (exit_handler settings hname)]
    exact runBuiltin_leaves ho he Builtin.exit_does hdeed
  constructor
  · intro h
    rcases dispatch_ends settings c m with ⟨n, hr⟩ | ⟨-, hname, hargs, out, m₁, err, m₂, ho, he⟩ |
      ⟨f, hr, -⟩
    · rw [h] at hr
      cases hr
    · have hargs' := (Command.argText_zero c.args).mp hargs
      have hrun := hleft hname hargs' ho he
      rw [h] at hrun
      cases hrun
      exact ⟨rfl, hname, hargs', ⟨out, m₁, err, ho, he⟩,
        ⟨m₁, Sink.ofTarget_leads ho, Sink.ofTarget_leads he⟩⟩
    · rw [h] at hr
      cases hr
  · rintro ⟨rfl, hname, hargs, ⟨out, m₁, err, ho, he⟩, -⟩
    exact hleft hname hargs ho he

theorem dispatch_stays {c : Command} {m m₁ m₂ : Machine} {out err : Sink} (hname : c.name = "exit")
    (hargs : c.args ≠ ["0"])
    (ho : Sink.ofTarget .out c.out (m.note (.builtin c.name c.args)) = .ok (out, m₁))
    (he : Sink.ofTarget .err c.err m₁ = .ok (err, m₂)) (htakes : err.writeError? m₂.disk = none) :
    ({ settings } : Session).dispatch c m = (.ok 1, err.deliver "Usage: exit 0\n" m₂) := by
  have hdeed : Builtin.exitDeed (Command.argText c.args) m₂ = .fails (.usage "Usage: exit 0") :=
    if_neg fun h => hargs ((Command.argText_zero c.args).mp h)
  have husage : "Usage: exit 0" ++ "\n" = "Usage: exit 0\n" := by decide
  rw [dispatch_builtin { settings } m (exit_handler settings hname),
    runBuiltin_fails ho he Builtin.exit_does hdeed htakes, Call.reportText, husage]

/-- A line leaves the shell exactly when its command is `exit` with zero as its one argument and
both of its sinks can be opened. The status is zero, and nothing was written. With other arguments
the usage goes to the error sink, and the shell stays. -/
theorem exit_zero_only :
    let sh : Session := { settings }
    (∀ line m status m', sh.execute line m = (.error (.exit status), m') ↔
      status = .code 0 ∧ ∃ c, (Line.parse line).command? = .ok (some c) ∧
        Departs c (read line m).2 m') ∧
    ∀ line m c out m₁ err m₂, (Line.parse line).command? = .ok (some c) → c.name = "exit" →
      c.args ≠ ["0"] →
      Sink.ofTarget .out c.out ((read line m).2.note (.builtin c.name c.args)) = .ok (out, m₁) →
      Sink.ofTarget .err c.err m₁ = .ok (err, m₂) →
      err.writeError? m₂.disk = none →
      sh.execute line m = (.ok 1, err.deliver "Usage: exit 0\n" m₂) := by
  intro sh
  refine ⟨fun line m status m' => ?_,
    fun line m c out m₁ err m₂ hparse hname hargs ho he htakes => ?_⟩
  · obtain ⟨c?, hparse⟩ := command?_ok line
    obtain ⟨m₀, hr⟩ := read_command hparse m
    rw [hr]
    cases c? with
    | none =>
      rw [execute_none hr]
      constructor
      · intro h
        cases h
      · rintro ⟨-, c, hc, -⟩
        cases hc.symm.trans hparse
    | some c =>
      rw [execute_some hr, dispatch_exits settings]
      refine and_congr_right fun _ => ⟨fun h => ⟨c, hparse, h⟩, ?_⟩
      rintro ⟨c', hc, h⟩
      cases hc.symm.trans hparse
      exact h
  · obtain ⟨m₀, hr⟩ := read_command hparse m
    rw [hr] at ho
    rw [execute_some hr]
    exact dispatch_stays settings hname hargs ho he htakes

def byteMachine : Machine where
  disk := ⟨#[.directory Disk.root [("f", 1)], .regular [97] 0o644]⟩

def emptiedMachine : Machine :=
  { (read "exit '0' > f" byteMachine).2.note (.builtin "exit" ["0"]) with
    disk := ⟨#[.directory Disk.root [("f", 1)], .regular [] 0o644]⟩ }

theorem exit_zero_only_quoted :
    ({} : Session).execute "exit '0' > f" byteMachine =
        (.error (.exit (.code 0)), emptiedMachine) ∧
      (({} : Session).execute "exit 0 0" byteMachine).1 = .ok 1 ∧
      (({} : Session).execute "exit 0 0" byteMachine).2.err.text = "Usage: exit 0\n" := by
  obtain ⟨hleaves, hstays⟩ := exit_zero_only {}
  have hopened : Sink.ofTarget .out (.file "f" .overwrite)
      ((read "exit '0' > f" byteMachine).2.note (.builtin "exit" ["0"])) =
        .ok (⟨.out, .file ⟨1, .overwrite, 0, [], []⟩, "f", false⟩, emptiedMachine) := rfl
  have hdeparts : Departs { name := "exit", args := ["0"], out := .file "f" .overwrite }
      (read "exit '0' > f" byteMachine).2 emptiedMachine :=
    ⟨rfl, rfl, ⟨_, _, _, hopened, rfl⟩, ⟨_, Sink.ofTarget_leads hopened, rfl⟩⟩
  have hrun := hstays "exit 0 0" byteMachine { name := "exit", args := ["0", "0"] } _ _ _ _ rfl rfl
    (by decide) rfl rfl rfl
  rw [hrun]
  exact ⟨(hleaves _ _ _ _).mpr ⟨rfl, _, rfl, hdeparts⟩, rfl, rfl⟩

end Session

end CommandShell
