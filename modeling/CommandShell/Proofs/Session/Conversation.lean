import CommandShell.Proofs.Session.FrontEnds

/-!
# What a session does with what it reads

A session asks for one reply after the other, with its prompt in front of each. A reply that it goes
on from leaves at most a line that was executed and one text on a console; the end of input and a
line that leaves the shell end the session.
-/

open CommandShell.Effect

namespace CommandShell

def Machine.asked (m : Machine) (prompt : String) (echoes : Bool) : Machine :=
  { (if echoes then m.display .out prompt else m) with prompts := m.prompts.push prompt }

/-- The line that is executed for a reply: what is left of it without the blanks around it. -/
def Reply.executed? : Reply → Option String
  | .line text => if strip text = "" then none else some (strip text)
  | _ => none

theorem executed?_blank {text : String} (h : strip text = "") :
    (Reply.line text).executed? = none :=
  if_pos h

theorem executed?_line {text : String} (h : strip text ≠ "") :
    (Reply.line text).executed? = some (strip text) :=
  if_neg h

namespace Session

/-! ## One reply -/

/-- A reply from which the session goes on: the lines that are executed, and the machine that is
left. -/
inductive GoesOn (sh : Session) : Machine → Reply → List String → Machine → Prop
  | interrupted {m : Machine} : GoesOn sh m .interrupt [] (m.display .out "\n")
  | undecodable {m : Machine} {reason : String} :
      GoesOn sh m (.undecodable reason) []
        (m.print .err s!"linesh: cannot decode input: {reason}\n")
  | blank {m : Machine} {text : String} : strip text = "" → GoesOn sh m (.line text) [] m
  | executed {m m' : Machine} {text : String} {code : Int} :
      strip text ≠ "" → sh.execute (strip text) m = (.ok code, m') →
      GoesOn sh m (.line text) [strip text] m'
  | stopped {m m' : Machine} {text message : String} :
      strip text ≠ "" → sh.execute (strip text) m = (.error (.interrupt message), m') →
      GoesOn sh m (.line text) [strip text] (m'.display .out "\n")

/-- A reply that ends the session, with its result. -/
inductive Ends (sh : Session) :
    Machine → Reply → List String → Except Escape Int → Machine → Prop
  | input {m : Machine} : Ends sh m .endOfInput [] (.ok 0) (m.display .out "\n")
  | line {m m' : Machine} {text : String} {e : Escape} :
      strip text ≠ "" → sh.execute (strip text) m = (.error e, m') →
      (∀ message, e ≠ .interrupt message) → Ends sh m (.line text) [strip text] (.error e) m'

section Reply

variable {sh : Session} {m m' : Machine} {reply : Reply} {lines : List String}
  {r : Except Escape Int}

theorem goesOn_lines (h : sh.GoesOn m reply lines m') : lines = reply.executed?.toList := by
  cases h with
  | interrupted => rfl
  | undecodable => rfl
  | blank hs => rw [executed?_blank hs]; rfl
  | executed hs => rw [executed?_line hs]; rfl
  | stopped hs => rw [executed?_line hs]; rfl

theorem ends_lines (h : sh.Ends m reply lines r m') : lines = reply.executed?.toList := by
  cases h with
  | input => rfl
  | line hs => rw [executed?_line hs]; rfl

theorem goesOn_reply (h : sh.GoesOn m reply lines m') : reply ≠ .endOfInput := by
  rintro rfl
  cases h

theorem turn_goesOn (h : sh.GoesOn m reply lines m') : sh.turn reply m = (.ok (), m') := by
  cases h with
  | interrupted => rfl
  | @undecodable reason =>
    have htext : s!"linesh: cannot decode input: {reason}\n" ≠ "" :=
      Builtin.append_ne_empty _ (by decide)
    exact Prod.ext rfl (complain_print htext m)
  | blank hs => rw [turn, answer_empty hs]
  | executed hs he => rw [turn, answer_eq hs, he]
  | stopped hs he => rw [turn, answer_eq hs, he]

theorem goesOn_or_ends (sh : Session) (m : Machine) (reply : Reply) :
    (∃ lines m', sh.GoesOn m reply lines m') ∨ ∃ lines r m', sh.Ends m reply lines r m' := by
  cases reply with
  | interrupt => exact Or.inl ⟨_, _, .interrupted⟩
  | undecodable reason => exact Or.inl ⟨_, _, .undecodable⟩
  | endOfInput => exact Or.inr ⟨_, _, _, .input⟩
  | line text =>
    by_cases hs : strip text = ""
    · exact Or.inl ⟨_, _, .blank hs⟩
    · rcases he : sh.execute (strip text) m with ⟨e | code, m'⟩
      · cases e with
        | interrupt message => exact Or.inl ⟨_, _, .stopped hs he⟩
        | fault f => exact Or.inr ⟨_, _, _, .line hs he (by rintro _ ⟨⟩)⟩
        | exit status => exact Or.inr ⟨_, _, _, .line hs he (by rintro _ ⟨⟩)⟩
      · exact Or.inl ⟨_, _, .executed hs he⟩

end Reply

/-! ## Whole sessions -/

/-- A session reads exactly the replies and executes the lines. -/
inductive Talks (sh : Session) (echoes : Bool) :
    Machine → List Reply → List String → Except Escape Int → Machine → Prop
  | ends {m m' : Machine} {reply : Reply} {lines : List String} {r : Except Escape Int} :
      sh.Ends (m.asked sh.settings.prompt echoes) reply lines r m' →
      Talks sh echoes m [reply] lines r m'
  | goesOn {m m₁ m' : Machine} {reply : Reply} {reads : List Reply} {lines lines' : List String}
      {r : Except Escape Int} :
      sh.GoesOn (m.asked sh.settings.prompt echoes) reply lines m₁ →
      Talks sh echoes m₁ reads lines' r m' →
      Talks sh echoes m (reply :: reads) (lines ++ lines') r m'

section Talks

variable {sh : Session} {echoes : Bool} {m m' : Machine} {replies reads : List Reply}
  {lines : List String} {r : Except Escape Int}

theorem asked_eq (sh : Session) (echoes : Bool) (m : Machine) :
    sh.prompted echoes m = m.asked sh.settings.prompt echoes := by
  cases echoes <;> rfl

theorem interact_nil (sh : Session) (echoes : Bool) (m : Machine) :
    sh.interact echoes [] m = sh.interact echoes [.endOfInput] m := rfl

theorem interact_ended {reply : Reply}
    (h : sh.Ends (m.asked sh.settings.prompt echoes) reply lines r m') (rest : List Reply) :
    sh.interact echoes (reply :: rest) m = (r, m') := by
  rw [← asked_eq] at h
  cases h with
  | input => rfl
  | @line _ text e hs he hi =>
    have hturn : sh.turn (.line text) (sh.prompted echoes m) = (.error e, m') := by
      rw [turn, answer_eq hs, he]
      cases e with
      | interrupt message => exact absurd rfl (hi message)
      | fault f => rfl
      | exit status => rfl
    rw [interact_turn _ _ _ (by rintro ⟨⟩), bind_error hturn]

theorem interact_goesOn {reply : Reply}
    (h : sh.GoesOn (m.asked sh.settings.prompt echoes) reply lines m') (rest : List Reply) :
    sh.interact echoes (reply :: rest) m = sh.interact echoes rest m' := by
  rw [interact_turn _ _ _ (goesOn_reply h), asked_eq, bind_ok (turn_goesOn h)]

theorem exists_talks (sh : Session) (echoes : Bool) (replies : List Reply) (m : Machine) :
    ∃ reads lines, reads <+: replies ++ [.endOfInput] ∧
      sh.Talks echoes m reads lines (sh.interact echoes replies m).1
        (sh.interact echoes replies m).2 := by
  induction replies generalizing m with
  | nil => exact ⟨[.endOfInput], [], List.prefix_rfl, .ends (by rw [← asked_eq]; exact .input)⟩
  | cons reply rest ih =>
    rcases goesOn_or_ends sh (m.asked sh.settings.prompt echoes) reply with
      ⟨lines, m₁, h⟩ | ⟨lines, r, m', h⟩
    · obtain ⟨reads, lines', hreads, hrest⟩ := ih m₁
      rw [interact_goesOn h]
      exact ⟨reply :: reads, lines ++ lines', List.cons_prefix_cons.mpr ⟨rfl, hreads⟩,
        .goesOn h hrest⟩
    · rw [interact_ended h]
      exact ⟨[reply], lines, List.cons_prefix_cons.mpr ⟨rfl, List.nil_prefix⟩, .ends h⟩

theorem talks_interact (h : sh.Talks echoes m reads lines r m')
    (hreads : reads <+: replies ++ [.endOfInput]) : sh.interact echoes replies m = (r, m') := by
  induction h generalizing replies with
  | ends h =>
    cases replies with
    | nil =>
      obtain ⟨rfl, -⟩ := List.cons_prefix_cons.mp hreads
      rw [interact_nil, interact_ended h]
    | cons _ rest =>
      obtain ⟨rfl, -⟩ := List.cons_prefix_cons.mp hreads
      exact interact_ended h rest
  | goesOn h _ ih =>
    cases replies with
    | nil =>
      obtain ⟨rfl, -⟩ := List.cons_prefix_cons.mp hreads
      exact absurd rfl (goesOn_reply h)
    | cons _ rest =>
      obtain ⟨rfl, hrest⟩ := List.cons_prefix_cons.mp hreads
      rw [interact_goesOn h, ih hrest]

theorem talks_lines (h : sh.Talks echoes m reads lines r m') :
    lines = reads.filterMap Reply.executed? := by
  induction h with
  | ends h =>
    rw [ends_lines h, List.filterMap_cons]
    split <;> next hs => rw [hs]; rfl
  | goesOn h _ ih =>
    rw [goesOn_lines h, ih, List.filterMap_cons]
    split <;> next hs => rw [hs]; rfl

theorem talks_ends (h : sh.Talks echoes m reads lines r m') :
    ∃ before last, reads = before ++ [last] ∧ .endOfInput ∉ before ∧
      (last = .endOfInput ∧ r = .ok 0 ∨
        ∃ text e, last = .line text ∧ strip text ≠ "" ∧ r = .error e ∧
          ∀ message, e ≠ .interrupt message) := by
  induction h with
  | @ends _ _ reply _ _ h =>
    refine ⟨[], reply, rfl, List.not_mem_nil, ?_⟩
    cases h with
    | input => exact Or.inl ⟨rfl, rfl⟩
    | line hs _ hi => exact Or.inr ⟨_, _, rfl, hs, rfl, hi⟩
  | @goesOn _ _ _ reply _ _ _ _ h _ ih =>
    obtain ⟨before, last, rfl, hnone, hways⟩ := ih
    refine ⟨reply :: before, last, rfl, ?_, hways⟩
    rw [List.mem_cons, not_or]
    exact ⟨(goesOn_reply h).symm, hnone⟩

/-! ## Prompts -/

theorem display_prompts (m : Machine) (stream : Stream) (text : String) :
    (m.display stream text).prompts = m.prompts := by
  cases stream <;> rfl

theorem asked_prompts (m : Machine) (prompt : String) (echoes : Bool) :
    (m.asked prompt echoes).prompts = m.prompts.push prompt := rfl

section Prompts

variable (hkeeps : ∀ line m, (sh.execute line m).2.prompts = m.prompts)

include hkeeps

theorem goesOn_prompts {reply : Reply} (h : sh.GoesOn m reply lines m') :
    m'.prompts = m.prompts := by
  have hafter {line : String} {r : Except Escape Int} {m m' : Machine}
      (he : sh.execute line m = (r, m')) : m'.prompts = m.prompts := by
    have hline := hkeeps line m
    rwa [he] at hline
  cases h with
  | interrupted => rfl
  | undecodable => exact display_prompts m .err _
  | blank => rfl
  | executed _ he => exact hafter he
  | stopped _ he => exact (display_prompts _ .out _).trans (hafter he)

theorem ends_prompts {reply : Reply} (h : sh.Ends m reply lines r m') :
    m'.prompts = m.prompts := by
  cases h with
  | input => rfl
  | @line _ text _ _ he =>
    have hline := hkeeps (strip text) m
    rwa [he] at hline

theorem talks_prompts (h : sh.Talks echoes m reads lines r m') :
    m'.prompts = m.prompts ++ (List.replicate reads.length sh.settings.prompt).toArray := by
  induction h with
  | ends h => rw [ends_prompts hkeeps h, asked_prompts]; simp
  | goesOn h _ ih =>
    rw [ih, goesOn_prompts hkeeps h, asked_prompts, List.length_cons, List.replicate_succ]
    exact Array.ext' (by simp)

end Prompts

end Talks

theorem execute_prompts (settings : Settings) (line : String) (m : Machine) :
    (({ settings } : Session).execute line m).2.prompts = m.prompts := by
  have hstart : Machine.Behind m.out.text m.out.text m.prompts m m :=
    ⟨"", String.append_empty.symm, by rw [String.append_empty]; rfl⟩
  obtain ⟨r, n, n', -, hn, said, -, rfl⟩ :=
    twin_execute (Machine.behind_parallel m.out.text m.out.text m.prompts) settings hstart
      (lineStarts_core rfl line)
  rw [hn]
  rfl

/-- A session reads replies, the end of the input being the last, up to the first that ends it, and
what it reads says which lines it executes, how it ends and how often it shows its prompt. -/
theorem interact_talks (sh : Session) (echoes : Bool) (replies : List Reply) (m : Machine) :
    (∀ r m', sh.interact echoes replies m = (r, m') ↔
      ∃ reads lines, reads <+: replies ++ [.endOfInput] ∧ sh.Talks echoes m reads lines r m') ∧
    (∀ reads lines r m', sh.Talks echoes m reads lines r m' →
      lines = reads.filterMap Reply.executed? ∧
      (∃ before last, reads = before ++ [last] ∧ .endOfInput ∉ before ∧
        (last = .endOfInput ∧ r = .ok 0 ∨
          ∃ text e, last = .line text ∧ strip text ≠ "" ∧ r = .error e ∧
            ∀ message, e ≠ .interrupt message)) ∧
      ((∀ line m, (sh.execute line m).2.prompts = m.prompts) →
        m'.prompts = m.prompts ++ (List.replicate reads.length sh.settings.prompt).toArray)) ∧
    ∀ settings line m, (({ settings } : Session).execute line m).2.prompts = m.prompts := by
  refine ⟨fun r m' => ⟨?_, ?_⟩, ?_, execute_prompts⟩
  · intro hrun
    obtain ⟨reads, lines, hreads, htalks⟩ := exists_talks sh echoes replies m
    rw [hrun] at htalks
    exact ⟨reads, lines, hreads, htalks⟩
  · rintro ⟨reads, lines, hreads, htalks⟩
    exact talks_interact htalks hreads
  · intro reads lines r m' htalks
    exact ⟨talks_lines htalks, talks_ends htalks, fun hkeeps => talks_prompts hkeeps htalks⟩

def talkReplies : List Reply :=
  [.interrupt, .undecodable "invalid start byte", .line " ", .line " echo a ", .line "cd d",
    .line "exit 0", .line "echo late"]

def talkMachine : Machine where
  disk := ⟨#[.directory Disk.root []]⟩

theorem interact_talks_exit :
    ∃ m', ({} : Session).Talks true talkMachine (talkReplies.take 6) ["echo a", "cd d", "exit 0"]
        (.error (.exit (.code 0))) m' ∧
      m'.out.text = "$ \n$ $ $ a\n$ $ " ∧
      m'.err.text = "linesh: cannot decode input: invalid start byte\n" ++
        "cd: /d: No such file or directory\n" := by
  have hresult : (({} : Session).interact true talkReplies talkMachine).1 =
      .error (.exit (.code 0)) := by
    decide +kernel
  have hsize : (({} : Session).interact true talkReplies talkMachine).2.prompts.size = 6 := by
    decide +kernel
  have hout : (({} : Session).interact true talkReplies talkMachine).2.out.text =
      "$ \n$ $ $ a\n$ $ " := by
    decide +kernel
  have herr : (({} : Session).interact true talkReplies talkMachine).2.err.text =
      "linesh: cannot decode input: invalid start byte\n" ++
        "cd: /d: No such file or directory\n" := by
    decide +kernel
  obtain ⟨hruns, htalks, hkeeps⟩ := interact_talks {} true talkReplies talkMachine
  rcases hrun : ({} : Session).interact true talkReplies talkMachine with ⟨r, m'⟩
  rw [hrun] at hresult hsize hout herr
  obtain rfl : r = .error (.exit (.code 0)) := hresult
  obtain ⟨reads, lines, hprefix, htalk⟩ := (hruns _ _).mp hrun
  obtain ⟨hlines, -, hprompts⟩ := htalks _ _ _ _ htalk
  -- As many replies were read as prompts were shown.
  have hlength : reads.length = 6 := by
    have hsix := congrArg Array.size (hprompts (hkeeps {}))
    have hnone : talkMachine.prompts.size = 0 := rfl
    simpa [hnone, show m'.prompts.size = 6 from hsize] using hsix.symm
  have hreads : reads = talkReplies.take 6 := by
    rw [List.prefix_iff_eq_take.mp hprefix, hlength]
    rfl
  have hexecuted : (talkReplies.take 6).filterMap Reply.executed? =
      ["echo a", "cd d", "exit 0"] := by
    decide +kernel
  rw [hlines, hreads, hexecuted] at htalk
  exact ⟨m', htalk, hout, herr⟩

end Session

end CommandShell
