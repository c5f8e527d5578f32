import CommandShell.Proofs.Line.Parsed
import CommandShell.Proofs.Session.Breaks
import CommandShell.Session.Interactive

/-!
# What ends a session

A session ends with zero when its input ends or a line is `exit 0`, and with a fault when it comes to
a command that breaks it. Nothing else ends it.
-/

open CommandShell.Effect

namespace CommandShell

namespace Session

/-! ## Reading a line -/

/-- The machine when a line was read: an operator without a path is noted and reported. -/
def afterReading (line : String) (m : Machine) : Machine :=
  match (Line.parse line).waiting with
  | none => m.note (.words (Line.words line))
  | some op =>
    ((m.note (.words (Line.words line))).note (.dropped op)).print .err (op.missingPath ++ "\n")

theorem missingPath_ne (op : Operator) : op.missingPath ++ "\n" ≠ "" :=
  Builtin.append_ne_empty _ (by decide)

theorem read_eq {line : String} {c? : Option Command}
    (hc : (Line.parse line).command? = .ok c?) (m : Machine) :
    read line m = (.ok c?, afterReading line m) := by
  have hx : (extract (Line.words line)).command? = .ok c? := hc
  unfold read afterReading Line.parse
  simp only [hx]
  cases hw : (extract (Line.words line)).waiting with
  | none =>
    have he : (extract (Line.words line)).errors = [] := by simp [Extraction.errors, hw]
    rw [he]
    rfl
  | some op =>
    have he : (extract (Line.words line)).errors = [op.missingPath] := by
      simp [Extraction.errors, hw]
    simp only [he]
    rw [← complain_print (missingPath_ne op)]
    rfl

theorem read_command {line : String} {c? : Option Command}
    (hc : (Line.parse line).command? = .ok c?) (m : Machine) :
    ∃ m', read line m = (.ok c?, m') :=
  ⟨_, read_eq hc m⟩

theorem read_ok (line : String) (m : Machine) : ∃ c? m', read line m = (.ok c?, m') := by
  obtain ⟨c?, hc⟩ := command?_ok line
  exact ⟨c?, read_command hc m⟩

theorem read_empty (m : Machine) : ∃ m', read "" m = (.ok none, m') :=
  read_command (by simp [Line.parse, Line.words, Line.scan, Line.Scan.finish, Line.Scan.cut,
    extract, Extraction.command?]) m

/-! ## Running a line -/

variable (settings : Settings)

theorem execute_none {sh : Session} {line : String} {m m' : Machine}
    (h : read line m = (.ok none, m')) : sh.execute line m = (.ok 0, m') :=
  bind_ok h

theorem execute_some {sh : Session} {line : String} {m m' : Machine} {c : Command}
    (h : read line m = (.ok (some c), m')) : sh.execute line m = sh.dispatch c m' :=
  bind_ok h

theorem execute_ends (line : String) (m : Machine) :
    (∃ status, (({ settings } : Session).execute line m).1 = .ok status) ∨
      ((({ settings } : Session).execute line m).1 = .error (.exit (.code 0)) ∧
        ∃ c m', read line m = (.ok (some c), m') ∧ Leaves m' c) ∨
      ∃ f, (({ settings } : Session).execute line m).1 = .error (.fault f) ∧
        ∃ c m', read line m = (.ok (some c), m') ∧ Breaks m' c f := by
  obtain ⟨_ | c, m', hr⟩ := read_ok line m
  · rw [execute_none hr]
    exact Or.inl ⟨0, rfl⟩
  · rw [execute_some hr]
    rcases dispatch_ends settings c m' with hok | ⟨hexit, hl⟩ | ⟨f, hf, hb⟩
    · exact Or.inl hok
    · exact Or.inr (Or.inl ⟨hexit, c, m', hr, hl⟩)
    · exact Or.inr (Or.inr ⟨f, hf, c, m', hr, hb⟩)

/-! ## Turns -/

theorem answer_empty {sh : Session} {text : String} (h : strip text = "") (m : Machine) :
    sh.answer text m = (.ok (), m) := by
  simp only [answer, h]
  rfl

theorem answer_eq {sh : Session} {text : String} (h : strip text ≠ "") (m : Machine) :
    sh.answer text m =
      match sh.execute (strip text) m with
      | (.ok _, m') => (.ok (), m')
      | (.error (.interrupt _), m') => (.ok (), m'.display .out "\n")
      | (.error e, m') => (.error e, m') := by
  simp only [answer, h, String.isEmpty_iff, if_false]
  rw [tryCatch_apply, discard_apply]
  rcases sh.execute (strip text) m with ⟨e | status, m'⟩
  · cases e <;> rfl
  · rfl

def afterLine : Except Escape Int → Except Escape Unit
  | .ok _ | .error (.interrupt _) => .ok ()
  | .error e => .error e

theorem answer_execute {sh : Session} {text : String} (h : strip text ≠ "") (m : Machine) :
    (sh.answer text m).1 = afterLine (sh.execute (strip text) m).1 := by
  rw [answer_eq h]
  rcases sh.execute (strip text) m with ⟨e | status, m'⟩
  · cases e <;> rfl
  · rfl

/-- What the session does with a reply. -/
def turn (sh : Session) : Reply → Run Unit
  | .line text => sh.answer text
  | .undecodable reason => Run.complain s!"linesh: cannot decode input: {reason}\n"
  | .interrupt | .endOfInput => newline

def prompted (sh : Session) (echoes : Bool) (m : Machine) : Machine := (sh.prompt echoes m).2

theorem interact_end (sh : Session) (echoes : Bool) (m : Machine) {replies : List Reply}
    (h : replies = [] ∨ ∃ rest, replies = .endOfInput :: rest) :
    (sh.interact echoes replies m).1 = .ok 0 := by
  rcases h with rfl | ⟨rest, rfl⟩ <;> rfl

theorem prompt_apply (sh : Session) (echoes : Bool) (m : Machine) :
    sh.prompt echoes m = (.ok (), sh.prompted echoes m) := rfl

theorem interact_turn (sh : Session) (echoes : Bool) (m : Machine) {reply : Reply}
    (h : reply ≠ .endOfInput) (rest : List Reply) :
    sh.interact echoes (reply :: rest) m =
      (sh.turn reply >>= fun _ => sh.interact echoes rest) (sh.prompted echoes m) := by
  cases reply with
  | endOfInput => exact absurd rfl h
  | _ => rw [interact, bind_ok (sh.prompt_apply echoes m), turn]

theorem turn_line {sh : Session} {text : String} {m : Machine} :
    (sh.turn (.line text) m).1 =
      if strip text = "" then .ok () else afterLine (sh.execute (strip text) m).1 := by
  rw [turn]
  split
  · next h => rw [answer_empty h]
  · next h => exact answer_execute h m

theorem turn_ends (reply : Reply) (m : Machine) :
    (({ settings } : Session).turn reply m).1 = .ok () ∨
      ∃ text c m', reply = .line text ∧ read (strip text) m = (.ok (some c), m') ∧
        ((({ settings } : Session).turn reply m).1 = .error (.exit (.code 0)) ∧ Leaves m' c ∨
          ∃ f, (({ settings } : Session).turn reply m).1 = .error (.fault f) ∧ Breaks m' c f) := by
  cases reply with
  | line text =>
    rw [turn_line]
    split
    · exact Or.inl rfl
    · rcases execute_ends settings (strip text) m with ⟨status, hok⟩ | ⟨hexit, c, m', hr, hl⟩ |
        ⟨f, hf, c, m', hr, hb⟩
      · rw [hok]
        exact Or.inl rfl
      · rw [hexit]
        exact Or.inr ⟨text, c, m', rfl, hr, Or.inl ⟨rfl, hl⟩⟩
      · rw [hf]
        exact Or.inr ⟨text, c, m', rfl, hr, Or.inr ⟨f, rfl, hb⟩⟩
  | _ => exact Or.inl rfl

theorem turn_error {text : String} {m m' : Machine} {c : Command} {e : Escape}
    (hr : read (strip text) m = (.ok (some c), m'))
    (hd : (({ settings } : Session).dispatch c m').1 = .error e)
    (hi : ∀ message, e ≠ .interrupt message) :
    (({ settings } : Session).turn (.line text) m).1 = .error e := by
  have hne : strip text ≠ "" := by
    intro h
    obtain ⟨m₀, hnone⟩ := read_empty m
    rw [h, hnone] at hr
    cases hr
  rw [turn_line, if_neg hne, execute_some hr, hd]
  cases e with
  | interrupt message => exact absurd rfl (hi message)
  | _ => rfl

/-! ## Whole sessions -/

/-- The session comes to a command, on the machine that the command finds. -/
inductive Comes (sh : Session) (echoes : Bool) : Machine → List Reply → Machine → Command → Prop
  | now {m m' : Machine} {text : String} {rest : List Reply} {c : Command} :
      read (strip text) (sh.prompted echoes m) = (.ok (some c), m') →
      Comes sh echoes m (.line text :: rest) m' c
  | later {m m₁ m' : Machine} {reply : Reply} {rest : List Reply} {c : Command} :
      reply ≠ .endOfInput → sh.turn reply (sh.prompted echoes m) = (.ok (), m₁) →
      Comes sh echoes m₁ rest m' c → Comes sh echoes m (reply :: rest) m' c

theorem interact_comes {echoes : Bool} {m m' : Machine} {replies : List Reply} {c : Command}
    {e : Escape} (h : ({ settings } : Session).Comes echoes m replies m' c)
    (hd : (({ settings } : Session).dispatch c m').1 = .error e)
    (hi : ∀ message, e ≠ .interrupt message) :
    (({ settings } : Session).interact echoes replies m).1 = .error e := by
  induction h with
  | @now m m' text rest c hr =>
    have ht := turn_error settings hr hd hi
    rw [interact_turn _ _ _ (by rintro ⟨⟩), bind_apply]
    rcases hturn : ({ settings } : Session).turn (.line text) _ with ⟨r, m₁⟩
    rw [hturn] at ht
    subst ht
    rfl
  | later hne ht _ ih =>
    rw [interact_turn _ _ _ hne, bind_ok ht]
    exact ih hd

theorem interact_trichotomy (echoes : Bool) (replies : List Reply) (m : Machine) :
    (({ settings } : Session).interact echoes replies m).1 = .ok 0 ∨
      ∃ m' c, ({ settings } : Session).Comes echoes m replies m' c ∧
        ((({ settings } : Session).interact echoes replies m).1 = .error (.exit (.code 0)) ∧
            Leaves m' c ∨
          ∃ f, (({ settings } : Session).interact echoes replies m).1 = .error (.fault f) ∧
            Breaks m' c f) := by
  induction replies generalizing m with
  | nil => exact Or.inl rfl
  | cons reply rest ih =>
    by_cases hend : reply = .endOfInput
    · exact Or.inl (interact_end _ echoes m (Or.inr ⟨rest, by rw [hend]⟩))
    -- One turn either hands the machine on to the rest or is where the session ends.
    · rw [interact_turn _ _ _ hend]
      rcases hturn : ({ settings } : Session).turn reply
        (({ settings } : Session).prompted echoes m) with ⟨r, m₁⟩
      rcases turn_ends settings reply (({ settings } : Session).prompted echoes m) with hok |
        ⟨text, c, m', rfl, hr, hways⟩
      · rw [hturn] at hok
        subst hok
        rw [bind_ok hturn]
        rcases ih m₁ with hzero | ⟨m', c, hcomes, hways⟩
        · exact Or.inl hzero
        · exact Or.inr ⟨m', c, .later hend hturn hcomes, hways⟩
      · refine Or.inr ⟨m', c, .now hr, ?_⟩
        rw [hturn] at hways
        rcases hways with ⟨rfl, hl⟩ | ⟨f, rfl, hb⟩
        · exact Or.inl ⟨by rw [bind_error hturn], hl⟩
        · exact Or.inr ⟨f, by rw [bind_error hturn], hb⟩

/-- How a session ends, and exactly when a fault ends it. -/
theorem interact_ends (echoes : Bool) (replies : List Reply) (m : Machine) :
    let sh : Session := { settings }
    let r := (sh.interact echoes replies m).1
    (r = .ok 0 ∨ r = .error (.exit (.code 0)) ∨ ∃ f, r = .error (.fault f)) ∧
      (r = .error (.exit (.code 0)) ↔ ∃ m' c, sh.Comes echoes m replies m' c ∧ Leaves m' c) ∧
      (∀ f, r = .error (.fault f) ↔ ∃ m' c, sh.Comes echoes m replies m' c ∧ Breaks m' c f) ∧
      ∀ line f, (sh.execute line m).1 = .error (.fault f) ↔
        ∃ m' c, read line m = (.ok (some c), m') ∧ Breaks m' c f := by
  intro sh r
  have hways := interact_trichotomy settings echoes replies m
  change r = .ok 0 ∨ ∃ m' c, sh.Comes echoes m replies m' c ∧
    (r = .error (.exit (.code 0)) ∧ Leaves m' c ∨ ∃ f, r = .error (.fault f) ∧ Breaks m' c f)
    at hways
  refine ⟨?_, ⟨?_, ?_⟩, fun f => ⟨?_, ?_⟩, fun line f => ⟨?_, ?_⟩⟩
  · rcases hways with hok | ⟨m', c, -, ⟨he, -⟩ | ⟨f, hf, -⟩⟩
    · exact Or.inl hok
    · exact Or.inr (Or.inl he)
    · exact Or.inr (Or.inr ⟨f, hf⟩)
  · intro he
    rcases hways with hok | ⟨m', c, hc, ⟨-, hl⟩ | ⟨f, hf, -⟩⟩
    · rw [hok] at he
      cases he
    · exact ⟨m', c, hc, hl⟩
    · rw [hf] at he
      cases he
  · rintro ⟨m', c, hc, hl⟩
    exact interact_comes settings hc (dispatch_leaves settings hl) (by rintro _ ⟨⟩)
  · intro hf
    rcases hways with hok | ⟨m', c, hc, ⟨he, -⟩ | ⟨f', hf', hb⟩⟩
    · rw [hok] at hf
      cases hf
    · rw [he] at hf
      cases hf
    · rw [hf'] at hf
      cases hf
      exact ⟨m', c, hc, hb⟩
  · rintro ⟨m', c, hc, hb⟩
    exact interact_comes settings hc (dispatch_breaks settings hb) (by rintro _ ⟨⟩)
  · intro hf
    rcases execute_ends settings line m with ⟨status, hok⟩ | ⟨he, -⟩ | ⟨f', hf', c, m', hr, hb⟩
    · rw [hok] at hf
      cases hf
    · rw [he] at hf
      cases hf
    · rw [hf'] at hf
      cases hf
      exact ⟨m', c, hr, hb⟩
  · rintro ⟨m', c, hr, hb⟩
    rw [execute_some hr]
    exact dispatch_breaks settings hb

end Session

end CommandShell
