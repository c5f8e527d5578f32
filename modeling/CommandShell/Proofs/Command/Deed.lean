import CommandShell.Builtin
import CommandShell.Proofs.Effect
import CommandShell.Proofs.File.Sink

/-!
# What a builtin does

Every builtin does one thing: it says a text on one of its streams, changes the machine without a
word, fails, or leaves the shell. Which one it is depends on the arguments and the machine alone,
never on the sinks.
-/

open CommandShell.Effect

namespace CommandShell

inductive Deed
  | tells (stream : Stream) (text : String) (status : Int) (m : Machine)
  | silent (status : Int) (m : Machine)
  | fails (f : Fault)
  | leaves (status : ExitStatus)

namespace Deed

def act : Deed → Act Int
  | tells stream text status m => do
    modify fun s => { s with machine := m }
    Act.write stream text
    return status
  | silent status m => do
    modify fun s => { s with machine := m }
    return status
  | fails f => Act.fail f
  | leaves status => throw (.exit status)

theorem tells_act (stream : Stream) (text : String) (status : Int) (m : Machine) (s : Scene) :
    (tells stream text status m).act s =
      (do Act.write stream text; return status : Act Int) { s with machine := m } := by
  rw [act, bind_ok (modify_apply _ s)]

/-- A deed leaves the files and the consoles of a machine alone. -/
def IsMild (m : Machine) : Deed → Prop
  | tells _ text _ m' => m.Agrees m' ∧ text ≠ ""
  | silent _ m' => m.Agrees m'
  | fails _ => True
  | leaves status => status = .code 0

end Deed

/-- The deed of a handler for the text of its arguments on a machine. -/
def Handler.Does (handler : Handler) (deed : String → Machine → Deed) : Prop :=
  ∀ e s, handler e s = (deed e.argText s.machine).act s

/-- The handler looks at nothing but the text of its arguments. -/
def Handler.ReadsText (handler : Handler) : Prop :=
  ∀ e e' : Errand, e.argText = e'.argText → handler e = handler e'

theorem Handler.Does.readsText {handler : Handler} {deed : String → Machine → Deed}
    (hd : handler.Does deed) : handler.ReadsText := by
  intro e e' h
  funext s
  rw [hd, hd, h]

namespace Builtin

def echoDeed (args : String) (m : Machine) : Deed := .tells .out (args ++ "\n") 0 m

def exitDeed (args : String) (_ : Machine) : Deed :=
  if args = "0" then .leaves (.code 0) else .fails (.usage "Usage: exit 0")

def typeDeed (name : String) (m : Machine) : Deed :=
  if name.isEmpty then .fails (.usage "Usage: type <command>")
  else if names.contains name then .tells .out s!"{name} is a shell builtin\n" 0 m
  else match m.lookUp name none with
    | (none, m) => .tells .out s!"{name}: not found\n" 1 m
    | (some path, m) => .tells .out s!"{name} is {path}\n" 0 m

def pwdDeed (_ : String) (m : Machine) : Deed :=
  match m.cwdPath with
  | .ok path => .tells .out (path ++ "\n") 0 m
  | .error e => .fails (.system e none)

def cdDeed (args : String) (m : Machine) : Deed :=
  if args.isEmpty then .fails (.usage "Usage: cd <directory>")
  else match m.resolve args none with
    | .error f => .fails f
    | .ok path =>
      match m.changeDirectory path with
      | (result, m) =>
        if result.isOk then .silent 0 m
        else .tells .err s!"cd: {result.path}: {result.reason}\n" 1 m

def deeds : List (String × (String → Machine → Deed)) :=
  [("cd", cdDeed), ("echo", echoDeed), ("exit", exitDeed), ("pwd", pwdDeed), ("type", typeDeed)]

theorem echo_does : Handler.Does echo echoDeed := by
  intro e s
  rw [echoDeed, Deed.tells_act, echo]

theorem exit_does : Handler.Does exit exitDeed := by
  intro e s
  unfold exit exitDeed
  split <;> rfl

theorem type_does : Handler.Does type typeDeed := by
  intro e s
  unfold type typeDeed
  split
  · rfl
  · split
    · rfl
    · rw [bind_ok (get_apply s)]
      rcases s.machine.lookUp e.argText none with ⟨_ | path, m⟩
      · rw [Deed.tells_act]
        rfl
      · rw [Deed.tells_act]
        rfl

theorem pwd_does : Handler.Does pwd pwdDeed := by
  intro e s
  rw [pwd, bind_ok (get_apply s), pwdDeed]
  cases s.machine.cwdPath <;> rfl

theorem cd_does : Handler.Does cd cdDeed := by
  intro e s
  unfold cd cdDeed
  split
  · rfl
  · rw [bind_ok (get_apply s)]
    cases s.machine.resolve e.argText none with
    | error f => rfl
    | ok path =>
      simp only
      rw [bind_ok (get_apply s)]
      rcases s.machine.changeDirectory path with ⟨result, m⟩
      simp only
      rw [bind_ok (modify_apply _ s)]
      split
      · rfl
      · rw [Deed.tells_act]

theorem handlers_deeds (name : String) :
    (handlers.lookup name = none ∧ deeds.lookup name = none) ∨
      ∃ handler deed, handlers.lookup name = some handler ∧ deeds.lookup name = some deed ∧
        handler.Does deed := by
  unfold handlers deeds
  simp only [List.lookup_cons, List.lookup_nil]
  cases name == "cd" with
  | true => exact Or.inr ⟨cd, cdDeed, rfl, rfl, cd_does⟩
  | false =>
  cases name == "echo" with
  | true => exact Or.inr ⟨echo, echoDeed, rfl, rfl, echo_does⟩
  | false =>
  cases name == "exit" with
  | true => exact Or.inr ⟨exit, exitDeed, rfl, rfl, exit_does⟩
  | false =>
  cases name == "pwd" with
  | true => exact Or.inr ⟨pwd, pwdDeed, rfl, rfl, pwd_does⟩
  | false =>
  cases name == "type" with
  | true => exact Or.inr ⟨type, typeDeed, rfl, rfl, type_does⟩
  | false => exact Or.inl ⟨rfl, rfl⟩

theorem handlers_readText {name : String} {handler : Handler}
    (h : handlers.lookup name = some handler) : handler.ReadsText := by
  rcases handlers_deeds name with ⟨hh, -⟩ | ⟨handler', deed, hh, -, hd⟩
  · cases hh.symm.trans h
  · cases hh.symm.trans h
    exact hd.readsText

theorem deeds_mem {name : String} {deed : String → Machine → Deed}
    (h : deeds.lookup name = some deed) :
    (name = "cd" ∧ deed = cdDeed) ∨ (name = "echo" ∧ deed = echoDeed) ∨
      (name = "exit" ∧ deed = exitDeed) ∨ (name = "pwd" ∧ deed = pwdDeed) ∨
      (name = "type" ∧ deed = typeDeed) := by
  obtain ⟨before, rest, hd, -⟩ := List.lookup_eq_some_iff.mp h
  have hmem : (name, deed) ∈ deeds := by simp [hd]
  simpa [deeds] using hmem

/-! ## What no builtin does -/

theorem lookUp_agrees (m : Machine) (name : String) (given? : Option String) :
    m.Agrees (m.lookUp name given?).2 := by
  unfold Machine.lookUp
  split <;> exact ⟨rfl, fun _ => rfl⟩

theorem enter_agrees {m m' : Machine} {path : String} (h : m.enter path = .ok m') :
    m.Agrees m' := by
  unfold Machine.enter at h
  split at h
  · cases h
  · split at h
    · cases h
    · split at h
      · cases h
        exact ⟨rfl, fun _ => rfl⟩
      · cases h

theorem changeDirectory_agrees (m : Machine) (path : String) :
    m.Agrees (m.changeDirectory path).2 := by
  unfold Machine.changeDirectory
  split
  · exact ⟨rfl, fun _ => rfl⟩
  · split
    · exact ⟨rfl, fun _ => rfl⟩
    · next h =>
      obtain ⟨hd, hc⟩ := enter_agrees h
      exact ⟨hd, hc⟩

theorem append_ne_empty (text : String) {last : String} (h : last ≠ "") : text ++ last ≠ "" :=
  fun ht => h (String.append_eq_empty_iff.mp ht).2

theorem deeds_mild {name : String} {deed : String → Machine → Deed}
    (h : deeds.lookup name = some deed) (args : String) (m : Machine) :
    (deed args m).IsMild m := by
  rcases deeds_mem h with ⟨-, rfl⟩ | ⟨-, rfl⟩ | ⟨-, rfl⟩ | ⟨-, rfl⟩ | ⟨-, rfl⟩
  · unfold cdDeed
    split
    · trivial
    · split
      · trivial
      · next path hr =>
        have hm := changeDirectory_agrees m path
        rcases hc : m.changeDirectory path with ⟨result, m'⟩
        rw [hc] at hm
        simp only
        split
        · exact hm
        · exact ⟨hm, append_ne_empty _ (by decide)⟩
  · exact ⟨⟨rfl, fun _ => rfl⟩, append_ne_empty _ (by decide)⟩
  · unfold exitDeed
    split
    · exact rfl
    · trivial
  · unfold pwdDeed
    split
    · exact ⟨⟨rfl, fun _ => rfl⟩, append_ne_empty _ (by decide)⟩
    · trivial
  · unfold typeDeed
    split
    · trivial
    · split
      · exact ⟨⟨rfl, fun _ => rfl⟩, append_ne_empty _ (by decide)⟩
      · have hm := lookUp_agrees m args none
        rcases hl : m.lookUp args none with ⟨_ | path, m'⟩
        · rw [hl] at hm
          exact ⟨hm, append_ne_empty _ (by decide)⟩
        · rw [hl] at hm
          exact ⟨hm, append_ne_empty _ (by decide)⟩

theorem deeds_leaves {name : String} {deed : String → Machine → Deed}
    (h : deeds.lookup name = some deed) (args : String) (m : Machine) (status : ExitStatus) :
    deed args m = .leaves status ↔ name = "exit" ∧ args = "0" ∧ status = .code 0 := by
  rcases deeds_mem h with ⟨rfl, rfl⟩ | ⟨rfl, rfl⟩ | ⟨rfl, rfl⟩ | ⟨rfl, rfl⟩ | ⟨rfl, rfl⟩
  · simp only [cdDeed]
    grind
  · simp [echoDeed]
  · simp only [exitDeed]
    grind
  · simp only [pwdDeed]
    grind
  · simp only [typeDeed]
    grind

end Builtin

end CommandShell
