import CommandShell.Proofs.Command.Solo
import CommandShell.Proofs.Session.Plays

/-!
# Both streams in one file

A builtin has both streams open before it writes; the output of a program is written and done with
before the errors open the file. With one stream silent the two come to the same, but for output in
front of errors that overwrite: opening the file for them takes the output away again.
-/

open CommandShell.Effect CommandShell.Scene

namespace CommandShell

/-! ## Opening a file twice -/

theorem Disk.sameFile_eq {d : Disk} {cwd : Ino} {p q : String} (h : d.sameFile cwd p cwd q = true)
    (dir : Ino) (path : String) : d.sameFile cwd q dir path = d.sameFile cwd p dir path := by
  obtain ⟨x, hp, hq⟩ := Disk.sameFile_iff.mp h
  unfold Disk.sameFile
  rw [hp, hq]

/-- What a file holds when the output and the errors are opened on it, from what it held. -/
def Command.opened (c : Command) (held : Option Bytes) : Bytes :=
  Disk.start c.err.mode (some (Disk.start c.out.mode held))

section Twice

variable {d d₁ d₂ : Disk} {cwd i j : Ino} {p q : String} {mode mode' : OpenMode}
  (hsame : d.sameFile cwd p cwd q = true) (ho : d.Opened d₁ cwd p mode i)
  (he : d₁.Opened d₂ cwd q mode' j)

include hsame ho he

theorem twice_node : i = j := by
  have hp : d₂.place .use cwd p = .ok (.found i) := he.keeps.places ho.place
  have hsame₂ : d₂.sameFile cwd p cwd q = true := by
    rw [he.keeps.names, ho.keeps.names, hsame]
  obtain ⟨x, hx, hx'⟩ := Disk.sameFile_iff.mp hsame₂
  cases hp.symm.trans hx
  cases he.place.symm.trans hx'
  rfl

theorem twice_aligned : Handle.Aligned { node := i, mode } d₂ := by
  obtain ⟨rights, hf⟩ := he.file
  rw [← twice_node hsame ho he] at hf
  refine ⟨_, rights, hf, ?_⟩
  cases mode with
  | append => exact Handle.size_file hf
  | overwrite =>
    -- The file was empty when it was opened again, so it is empty in either mode.
    obtain ⟨rights', hf'⟩ := ho.file
    have hheld : d₁.content? cwd q = some [] := by
      have hsame₁ : d₁.sameFile cwd p cwd q = true := by rw [ho.keeps.names, hsame]
      rw [← Disk.content?_sameFile hsame₁, Disk.content?_found ho.place, hf']
      rfl
    rw [hheld]
    cases mode' <;> rfl

end Twice

namespace Session

section Shared

variable {c : Command} {m m₁ m₂ : Machine} {out err : Sink} {p q : String}
  (hp : c.out.path? = some p) (hq : c.err.path? = some q)
  (hsame : m.disk.sameFile m.cwd p m.cwd q = true)

include hp hq hsame

theorem shared_store {texts : Stream → List String} (dir : Ino) (path : String)
    (held : Option Bytes) :
    Emission.store ⟨m.cwd, c.target, texts⟩ m.disk dir path held =
      if m.disk.sameFile m.cwd p dir path then
        some (Disk.start c.err.mode (some (Disk.start c.out.mode held ++
          Utf8.encode (String.join (texts .out)))) ++ Utf8.encode (String.join (texts .err)))
      else held := by
  have hout : (c.target .out).path? = some p := hp
  have herr : (c.target .err).path? = some q := hq
  simp only [Emission.store, Target.store, hout, herr, Disk.sameFile_eq hsame]
  split
  · rfl
  · rfl

variable (hs : m.disk.Sound)

include hs

theorem shared_contents {port? : Option Ino} {d₁ d₂ : Disk}
    (ho : c.out.Opens m.disk d₁ m.cwd port?) (he : c.err.Opens d₁ d₂ m.cwd port?) (bytes : Bytes)
    (dir : Ino) (path : String) :
    (d₂.appendAt port? bytes).content? dir path =
      if m.disk.sameFile m.cwd p dir path then
        some (c.opened (m.disk.content? dir path) ++ bytes)
      else m.disk.content? dir path := by
  have hk₁ := Target.opens_preserves hs ho
  have hk₂ := Target.opens_preserves hk₁.sound he
  rw [Target.appendAt_contents (Target.opens_leads he), Target.opens_contents he,
    Target.opens_contents ho, Target.extend_names (hk₁.trans hk₂).names,
    Target.begin_names hk₁.names]
  simp only [Target.extend, Target.begin, hp, hq, Disk.sameFile_eq hsame]
  split
  · rfl
  · rfl

variable (hf : ∀ stream, (c.target stream).Fits m.disk m.cwd)

include hf

theorem sinks_shared (ho : Sink.ofTarget .out c.out m = .ok (out, m₁))
    (he : Sink.ofTarget .err c.err m₁ = .ok (err, m₂)) (speaker : Stream) :
    Scene.Solo ⟨m₂, out, err⟩ speaker ∧ Scene.told ⟨m₂, out, err⟩ speaker = m₂.disk ∧
      Scene.port? ⟨m₂, out, err⟩ speaker = err.port? ∧
      c.out.Opens m.disk m₁.disk m.cwd err.port? ∧
      c.err.Opens m₁.disk m₂.disk m.cwd err.port? := by
  obtain ⟨i, d₁, ho', hopened⟩ := ofTarget_opened hs hp (hf .out p hp) .out
  cases ho.symm.trans ho'
  have hw := hopened.keeps.writable (hf .err q hq)
  obtain ⟨j, d₂, he', hopened'⟩ :=
    ofTarget_opened (m := { m with disk := d₁ }) hopened.keeps.sound hq hw .err
  cases he.symm.trans he'
  have hij := twice_node hsame hopened hopened'
  subst hij
  have hout : Handle.Aligned { node := i, mode := c.out.mode } d₂ :=
    twice_aligned hsame hopened hopened'
  have herr : Handle.Aligned { node := i, mode := c.err.mode } d₂ := fresh_aligned hopened'
  refine ⟨⟨?_, ?_⟩, ?_, ?_, ?_, ?_⟩
  · cases speaker with
    | out => exact ⟨rfl, Or.inr ⟨_, rfl, hout⟩⟩
    | err => exact ⟨rfl, Or.inr ⟨_, rfl, herr⟩⟩
  · rintro (_ | _) -
    · exact ⟨rfl, _, rfl, rfl, rfl⟩
    · exact ⟨rfl, _, rfl, rfl, rfl⟩
  · cases speaker <;> exact d₂.append_nil i
  · cases speaker <;> rfl
  · rw [Target.Opens, hp]
    exact ⟨i, rfl, hopened⟩
  · rw [Target.Opens, hq]
    exact ⟨i, rfl, hopened'⟩

theorem runBuiltin_shared {handler : Handler} {status : Int} {s : Scene}
    {es : List (Stream × String)} {speaker : Stream}
    (ho : Sink.ofTarget .out c.out m = .ok (out, m₁))
    (he : Sink.ofTarget .err c.err m₁ = .ok (err, m₂))
    (hrun : handler c.errand ⟨m₂, out, err⟩ = (.ok status, s))
    (hemits : Emits ⟨m₂, out, err⟩ es s)
    (hes : ∀ other, other ≠ speaker → String.join (textsOn other es) = "") :
    ∃ m', runBuiltin c handler m = (.ok status, m') ∧ ∀ dir path, m'.disk.content? dir path =
      if m.disk.sameFile m.cwd p dir path then
        some (c.opened (m.disk.content? dir path) ++
          Utf8.encode (String.join (textsOn speaker es)))
      else m.disk.content? dir path := by
  obtain ⟨hsolo, htold, hport, hopens, hopens'⟩ := sinks_shared hp hq hsame hs hf ho he speaker
  obtain ⟨hsolo₁, htold₁⟩ := emits_solo hemits hsolo hes
  obtain ⟨s₂, hflush, hsolo₂, htold₂⟩ := solo_flushBoth hsolo₁
  obtain ⟨s₃, hclose, hdisk, hleft⟩ := solo_closeBoth hsolo₂
  let call := c.call handler
  have hcall := Call.run_flushed (c := call) rfl (Call.settle_ok hrun) hflush
  refine ⟨s₃.machine, ?_, fun dir path => ?_⟩
  · rw [runBuiltin, visit_opened ho he, between_eq hcall hclose]
    simp only [hleft]
    rfl
  · rw [hdisk, htold₂, htold₁, htold, hport]
    exact shared_contents hp hq hsame hs hopens hopens' _ dir path

end Shared

/-- What is in the file when the command has run as a program, after a text on one stream. -/
def leftByProgram (c : Command) (speaker : Stream) (held : Option Bytes) (text : String) : Bytes :=
  if speaker = .out ∧ c.err.mode = .overwrite then [] else c.opened held ++ Utf8.encode text

section Left

variable (c : Command) (speaker : Stream) (held : Option Bytes) {text : String}

theorem stored_left {texts : Stream → List String}
    (h : ∀ stream, String.join (texts stream) = if stream = speaker then text else "") :
    Disk.start c.err.mode (some (Disk.start c.out.mode held ++
      Utf8.encode (String.join (texts .out)))) ++ Utf8.encode (String.join (texts .err)) =
        leftByProgram c speaker held text := by
  have hempty : Utf8.encode "" = [] := rfl
  rw [h, h]
  unfold leftByProgram Command.opened
  cases speaker with
  | out =>
    simp only [if_true, reduceCtorEq, if_false, hempty, List.append_nil, true_and]
    cases c.err.mode <;> rfl
  | err => simp only [reduceCtorEq, if_false, if_true, hempty, List.append_nil, false_and]

theorem left_eq_iff :
    leftByProgram c speaker held text = c.opened held ++ Utf8.encode text ↔
      ¬ (speaker = .out ∧ c.err.mode = .overwrite ∧ text ≠ "") := by
  unfold leftByProgram
  split
  · next h =>
    obtain ⟨hsp, hmode⟩ := h
    have hopened : c.opened held = [] := by rw [Command.opened, hmode, Disk.start]
    rw [hopened, List.nil_append]
    constructor
    · rintro hnil ⟨-, -, hne⟩
      exact Sink.encode_ne_nil hne hnil.symm
    · intro hn
      have htext : text = "" :=
        Decidable.byContradiction fun hne => hn ⟨hsp, hmode, hne⟩
      rw [htext]
      rfl
  · next h => exact ⟨fun _ hn => h ⟨hn.1, hn.2.1⟩, fun _ => rfl⟩

end Left

/-- A builtin and a program say a text on one stream and nothing on the other, with both streams in
one file. They leave the same in it, unless the text is output and the errors overwrite: then the
program leaves nothing. -/
theorem dispatch_shared {sh : Session} {m : Machine} {c c' : Command} {e e' : Emission}
    {handler : Handler} {p q text : String} {speaker : Stream} (hs : m.disk.Sound)
    (hp : c.out.path? = some p) (hq : c.err.path? = some q)
    (hsame : m.disk.sameFile m.cwd p m.cwd q = true)
    (hf : ∀ stream, (c.target stream).Fits m.disk m.cwd)
    (hbuiltin : sh.handlers.lookup c.name = some handler) (he : sh.Emitting m c e)
    (hprogram : sh.handlers.lookup c'.name = none) (he' : sh.Emitting m c' e')
    (htarget : c'.target = c.target)
    (hspoken : ∀ stream, String.join (e.texts stream) = if stream = speaker then text else "")
    (hspoken' : ∀ stream, String.join (e'.texts stream) = if stream = speaker then text else "") :
    ∃ status m₁ status' m₁', sh.dispatch c m = (.ok status, m₁) ∧
      sh.dispatch c' m = (.ok status', m₁') ∧
      (∀ dir path,
        m₁.disk.content? dir path =
          (if m.disk.sameFile m.cwd p dir path then
            some (c.opened (m.disk.content? dir path) ++ Utf8.encode text)
          else m.disk.content? dir path) ∧
        m₁'.disk.content? dir path =
          (if m.disk.sameFile m.cwd p dir path then
            some (leftByProgram c speaker (m.disk.content? dir path) text)
          else m.disk.content? dir path)) ∧
      (m₁'.disk.content? m.cwd p = m₁.disk.content? m.cwd p ↔
        ¬ (speaker = .out ∧ c.err.mode = .overwrite ∧ text ≠ "")) := by
  have hself : m.disk.sameFile m.cwd p m.cwd p = true := by
    obtain ⟨x, hx, -⟩ := Disk.sameFile_iff.mp hsame
    exact Disk.sameFile_iff.mpr ⟨x, hx, hx⟩
  cases he with
  | program hnone => simp [hbuiltin] at hnone
  | builtin hl ho he hrun hemits =>
  cases he' with
  | builtin hsome => simp [hprogram] at hsome
  | program hl' hlook hstart hdisk =>
  have hsilent (other : Stream) (hother : other ≠ speaker) : String.join (textsOn other _) = "" :=
    (hspoken other).trans (if_neg hother)
  obtain ⟨m₁, hrun₁, hcontents₁⟩ :=
    runBuiltin_shared (m := m.note (.builtin c.name c.args)) hp hq hsame hs hf ho he hrun hemits
      hsilent
  obtain ⟨m₁', hrun₁', hdelivered⟩ :=
    runProgram_delivers (m := m.note (.external c'.name c'.args)) hs (htarget ▸ hf) hlook hstart
      hdisk
  have hbuiltin₁ (dir : Ino) (path : String) : m₁.disk.content? dir path =
      if m.disk.sameFile m.cwd p dir path then
        some (c.opened (m.disk.content? dir path) ++ Utf8.encode text)
      else m.disk.content? dir path := by
    have htext := hspoken speaker
    rw [if_pos rfl] at htext
    rw [← htext]
    exact hcontents₁ dir path
  have hprogram₁ (dir : Ino) (path : String) : m₁'.disk.content? dir path =
      if m.disk.sameFile m.cwd p dir path then
        some (leftByProgram c speaker (m.disk.content? dir path) text)
      else m.disk.content? dir path := by
    rw [← stored_left c speaker _ hspoken', ← shared_store hp hq hsame, ← htarget]
    exact hdelivered.contents dir path
  refine ⟨_, m₁, _, m₁', (dispatch_builtin sh m hl).trans hrun₁,
    (dispatch_program sh m hl').trans hrun₁',
    fun dir path => ⟨hbuiltin₁ dir path, hprogram₁ dir path⟩, ?_⟩
  rw [hbuiltin₁, hprogram₁, if_pos hself, if_pos hself, Option.some.injEq, left_eq_iff]

def youToBoth (name : String) : Command :=
  { name, args := ["you"], out := .file "f" .overwrite, err := .file "f" .overwrite }

def hiMachine : Machine := sayingMachine (some [104, 105, 10]) #[]

def youFinished : Finished := ⟨0, Utf8.encode "you\n", [], hiMachine.disk⟩

theorem emitting_youEcho : Emitting {} hiMachine (youToBoth "echo")
    ⟨Disk.root, (youToBoth "echo").target, (textsOn · [(.out, "you\n")])⟩ :=
  .builtin rfl rfl rfl rfl (.write (.done _))

theorem emitting_youSay : Emitting {} hiMachine (youToBoth "say")
    ⟨Disk.root, (youToBoth "say").target, capturedTexts youFinished.out youFinished.err⟩ := by
  have hlook : (hiMachine.note (.external "say" ["you"])).lookUp "say" none =
      (some "/say", (hiMachine.note (.external "say" ["you"])).note (.resolved "say" "/say")) := rfl
  have hstart : ((hiMachine.note (.external "say" ["you"])).note (.resolved "say" "/say")).start
      "/say" ["say", "you"] = .ok ("/say", youFinished) := rfl
  exact .program rfl hlook hstart rfl

theorem dispatch_shared_saying : ∃ status m₁ status' m₁',
    ({} : Session).dispatch (youToBoth "echo") hiMachine = (.ok status, m₁) ∧
      ({} : Session).dispatch (youToBoth "say") hiMachine = (.ok status', m₁') ∧
      m₁.disk.content? Disk.root "f" = some (Utf8.encode "you\n") ∧
      m₁'.disk.content? Disk.root "f" = some [] := by
  have hf : ∀ stream, ((youToBoth "echo").target stream).Fits hiMachine.disk hiMachine.cwd := by
    rintro (_ | _) path hpath
    · cases hpath
      exact writable_old #[]
    · cases hpath
      exact writable_old #[]
  have hspoken : ∀ stream, String.join (textsOn stream [(.out, "you\n")]) =
      if stream = .out then "you\n" else "" := by
    rintro (_ | _) <;> rfl
  have hspoken' : ∀ stream, String.join (capturedTexts youFinished.out youFinished.err stream) =
      if stream = .out then "you\n" else "" := by
    rintro (_ | _) <;> rfl
  have htarget : (youToBoth "say").target = (youToBoth "echo").target :=
    funext fun stream => by cases stream <;> rfl
  obtain ⟨status, m₁, status', m₁', hrun, hrun', hcontents, -⟩ :=
    dispatch_shared (by decide) rfl rfl rfl hf rfl emitting_youEcho rfl emitting_youSay htarget
      hspoken hspoken'
  obtain ⟨hleft, hleft'⟩ := hcontents Disk.root "f"
  exact ⟨status, m₁, status', m₁', hrun, hrun', hleft.trans rfl, hleft'.trans rfl⟩

end Session

end CommandShell
