import CommandShell.Proofs.Program.Search
import CommandShell.Proofs.Session.Breaks
import CommandShell.Proofs.Session.Outcome
import Mathlib.Logic.ExistsUnique

/-!
# What a name means

A name is that of a builtin, or of a program on the search path, or it means nothing. `type` says
which it is, and a command of that name is run as what `type` says.
-/

open CommandShell.Effect

namespace CommandShell

/-! ## The registry of builtins -/

namespace Builtin

theorem names_eq : names = handlers.map Prod.fst := rfl

theorem lookup_eq_some {name : String} {handler : Handler} :
    handlers.lookup name = some handler ↔ (name, handler) ∈ handlers := by
  constructor
  · intro h
    obtain ⟨before, after, heq, -⟩ := List.lookup_eq_some_iff.mp h
    rw [heq]
    exact List.mem_append_right _ List.mem_cons_self
  · intro h
    simp only [handlers, List.mem_cons, Prod.mk.injEq, List.not_mem_nil, or_false] at h
    rcases h with ⟨rfl, rfl⟩ | ⟨rfl, rfl⟩ | ⟨rfl, rfl⟩ | ⟨rfl, rfl⟩ | ⟨rfl, rfl⟩ <;> rfl

theorem lookup_eq_none {name : String} : handlers.lookup name = none ↔ name ∉ names := by
  rw [List.lookup_eq_none_iff, names_eq]
  simp only [List.mem_map, not_exists, not_and, bne_iff_ne]
  constructor
  · rintro h entry hentry rfl
    exact h entry hentry rfl
  · intro h entry hentry heq
    exact h entry hentry heq.symm

end Builtin

/-! ## The three meanings -/

inductive Meaning
  | builtin (handler : Handler)
  | program (file : String)
  | unknown

/-- The name has the meaning on a machine. A builtin comes before a program of its name. -/
inductive Machine.Means (m : Machine) (name : String) : Meaning → Prop
  | builtin {handler : Handler} :
      (name, handler) ∈ Builtin.handlers → Means m name (.builtin handler)
  | program {file : String} : name ∉ Builtin.names → m.findProgram? name none = some file →
      Means m name (.program file)
  | unknown : name ∉ Builtin.names → m.findProgram? name none = none → Means m name .unknown

theorem means_unique (m : Machine) (name : String) : ∃! w, m.Means name w := by
  cases hl : Builtin.handlers.lookup name with
  | some handler =>
    refine ⟨.builtin handler, .builtin (Builtin.lookup_eq_some.mp hl), ?_⟩
    rintro w (hmem | ⟨hn, -⟩ | ⟨hn, -⟩)
    · have heq := hl.symm.trans (Builtin.lookup_eq_some.mpr hmem)
      rw [Option.some.inj heq]
    all_goals
      rw [Builtin.lookup_eq_none.mpr hn] at hl
      cases hl
  | none =>
    have hname := Builtin.lookup_eq_none.mp hl
    have hbuiltin (handler : Handler) : (name, handler) ∉ Builtin.handlers := by
      intro hmem
      rw [Builtin.lookup_eq_some.mpr hmem] at hl
      cases hl
    cases hf : m.findProgram? name none with
    | some file =>
      refine ⟨.program file, .program hname hf, ?_⟩
      rintro w (hmem | ⟨-, hf'⟩ | ⟨-, hf'⟩)
      · exact absurd hmem (hbuiltin _)
      · rw [Option.some.inj (hf.symm.trans hf')]
      · cases hf.symm.trans hf'
    | none =>
      refine ⟨.unknown, .unknown hname hf, ?_⟩
      rintro w (hmem | ⟨-, hf'⟩ | ⟨-, hf'⟩)
      · exact absurd hmem (hbuiltin _)
      · cases hf.symm.trans hf'
      · rfl

theorem means_note {m : Machine} {name : String} {w : Meaning} (h : m.Means name w) (e : Event) :
    (m.note e).Means name w := by
  cases h with
  | builtin hmem => exact .builtin hmem
  | program hn hf => exact .program hn hf
  | unknown hn hf => exact .unknown hn hf

namespace Meaning

/-! ## What `type` does -/

/-- What `type` says of a name with this meaning. -/
def told (name : String) : Meaning → String
  | builtin _ => s!"{name} is a shell builtin\n"
  | program file => s!"{name} is {file}\n"
  | unknown => s!"{name}: not found\n"

def status : Meaning → Int
  | unknown => 1
  | _ => 0

def noted (name : String) (m : Machine) : Meaning → Machine
  | program file => m.note (.resolved name file)
  | _ => m

theorem typeDeed_means {m : Machine} {name : String} {w : Meaning} (hn : name ≠ "")
    (h : m.Means name w) :
    Builtin.typeDeed name m = .tells .out (w.told name) w.status (w.noted name m) := by
  have hempty : name.isEmpty = false := by simpa using hn
  unfold Builtin.typeDeed
  cases h with
  | builtin hmem =>
    have hname : name ∈ Builtin.names := List.mem_map_of_mem (f := Prod.fst) hmem
    simp only [hempty, List.contains_eq_mem, hname, decide_true, Bool.false_eq_true, if_false,
      if_true]
    rfl
  | program hname hf =>
    simp only [hempty, List.contains_eq_mem, hname, decide_false, Bool.false_eq_true, if_false,
      Machine.lookUp, hf]
    rfl
  | unknown hname hf =>
    simp only [hempty, List.contains_eq_mem, hname, decide_false, Bool.false_eq_true, if_false,
      Machine.lookUp, hf]
    rfl

/-! ## What a command does -/

/-- A command whose name has this meaning. A program is started from its file under the name and
with the arguments of the command; what means nothing is reported on the console. -/
def run (c : Command) (m : Machine) : Meaning → Except Escape Int × Machine
  | builtin handler => Session.runBuiltin c handler (m.note (.builtin c.name c.args))
  | program file =>
    let m := (m.note (.external c.name c.args)).note (.resolved c.name file)
    match m.start file (c.name :: c.args) with
    | .error f => (.ok 126, m.print .err s!"Error: {f.message}\n")
    | .ok (_, finished) =>
      (do
        Run.route .out c.out (capturedText finished.out)
        Run.route .err c.err (capturedText finished.err)
        return finished.status : Run Int)
        ({ m with disk := finished.disk }.note (.ended file finished.status))
  | unknown =>
    (.ok 127, (m.note (.external c.name c.args)).print .err s!"{c.name}: not found\n")

theorem notFound_line (name : String) :
    (Fault.notFound name).message ++ "\n" = s!"{name}: not found\n" := by
  have hline : ": not found" ++ "\n" = ": not found\n" := by decide
  have hmessage : (Fault.notFound name).message = name ++ ": not found" := rfl
  have htext : s!"{name}: not found\n" = name ++ ": not found\n" := rfl
  rw [hmessage, htext, String.append_assoc, hline]

theorem dispatch_means (settings : Settings) {c : Command} {m : Machine} {w : Meaning}
    (h : m.Means c.name w) : ({ settings } : Session).dispatch c m = w.run c m := by
  cases h with
  | builtin hmem =>
    exact Session.dispatch_builtin { settings } m (Builtin.lookup_eq_some.mpr hmem)
  | @program file hname hf =>
    have hl := Machine.lookUp_found (m := m.note (.external c.name c.args)) hf
    rw [Session.dispatch_program { settings } m (Builtin.lookup_eq_none.mpr hname)]
    simp only [run]
    split
    · next f hs =>
      obtain ⟨reason, rfl⟩ := Session.start_error hs
      exact Session.runProgram_unstarted (Run.program_unstarted c.out c.err hl hs) rfl
    · next path finished hs =>
      have hp := Run.program_started c.out c.err hl hs
      -- What is left are the targets, and nothing that they can fail with is caught.
      rcases Session.routes_end c.out c.err (capturedText finished.out) (capturedText finished.err)
        finished.status _ with ⟨-, hr⟩ | ⟨-, hr⟩
      · rw [← hp] at hr ⊢
        exact (Session.runProgram_null rfl hr).trans (Prod.ext hr.symm rfl)
      · rw [← hp] at hr ⊢
        exact (Session.runProgram_ok rfl hr).trans (Prod.ext hr.symm rfl)
  | unknown hname hf =>
    have hl := Machine.lookUp_missing (m := m.note (.external c.name c.args)) hf
    rw [Session.dispatch_program { settings } m (Builtin.lookup_eq_none.mpr hname),
      Session.runProgram_missing (Run.program_missing c.out c.err hl) rfl, notFound_line]
    rfl

end Meaning

/-! ## Saying and doing -/

theorem type_means {m : Machine} {name : String} {w : Meaning} (hn : name ≠ "")
    (h : m.Means name w) {e : Errand} (he : e.argText = name) (out err : Sink) :
    Builtin.type e ⟨m, out, err⟩ =
      (do Act.write .out (w.told name); return w.status : Act Int) ⟨w.noted name m, out, err⟩ := by
  have hdeed := Meaning.typeDeed_means hn h
  rw [Builtin.type_does, he, hdeed, Deed.tells_act]

theorem type_prints (settings : Settings) {m : Machine} {args : List String} {w : Meaning}
    (hn : Command.argText args ≠ "") (h : m.Means (Command.argText args) w) :
    ({ settings } : Session).dispatch { name := "type", args } m =
      (.ok w.status, (w.noted (Command.argText args) (m.note (.builtin "type" args))).print .out
        (w.told (Command.argText args))) := by
  have hdeed := Meaning.typeDeed_means hn (means_note h (.builtin "type" args))
  have hmild : (Builtin.typeDeed (Command.argText args) (m.note (.builtin "type" args))).IsMild
      (m.note (.builtin "type" args)) := @Builtin.deeds_mild "type" _ rfl _ _
  rw [Session.dispatch_builtin { settings } m rfl]
  exact Session.runBuiltin_tells (c := { name := "type", args }) rfl rfl Builtin.type_does hdeed
    hmild rfl

/-- Every name but the empty one means one thing. `type` prints which, and a command of the name is
run as that. -/
theorem type_dispatch (settings : Settings) (m : Machine) {name : String} (hn : name ≠ "") :
    let sh : Session := { settings }
    (∃! w, m.Means name w) ∧ ∀ w, m.Means name w →
      (∀ e : Errand, e.argText = name → ∀ out err, Builtin.type e ⟨m, out, err⟩ =
        (do Act.write .out (w.told name); return w.status : Act Int)
          ⟨w.noted name m, out, err⟩) ∧
      (∀ args, Command.argText args = name →
        sh.dispatch { name := "type", args } m =
          (.ok w.status,
            (w.noted name (m.note (.builtin "type" args))).print .out (w.told name))) ∧
      ∀ c : Command, c.name = name → sh.dispatch c m = w.run c m := by
  intro sh
  refine ⟨means_unique m name, fun w hw => ⟨fun e => type_means hn hw, ?_, ?_⟩⟩
  · rintro args rfl
    exact type_prints settings hn hw
  · rintro c rfl
    exact Meaning.dispatch_means settings hw

theorem type_dispatch_twoProgs :
    Machine.twoProgs.Means "prog" (.program "prog") ∧
      (({} : Session).dispatch { name := "type", args := ["prog"] } Machine.twoProgs).1 = .ok 0 ∧
      (({} : Session).dispatch { name := "type", args := ["prog"] } Machine.twoProgs).2.out.text =
        "prog is prog\n" ∧
      (({} : Session).dispatch { name := "prog" } Machine.twoProgs).1 = .ok 0 := by
  have hmeans : Machine.twoProgs.Means "prog" (.program "prog") := .program (by decide) rfl
  obtain ⟨-, hall⟩ := @type_dispatch {} Machine.twoProgs "prog" (by decide)
  obtain ⟨-, htype, hrun⟩ := hall _ hmeans
  rw [htype ["prog"] rfl, hrun { name := "prog" } rfl]
  exact ⟨hmeans, rfl, rfl, rfl⟩

end CommandShell
