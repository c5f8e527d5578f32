import Mathlib.Data.List.Forall2
import CommandShell.Proofs.Disk.Sound
import CommandShell.Proofs.Session.Store

/-!
# Runs of commands

A run brings the emissions of its commands to the files and the consoles in order. Which of the
commands are builtins and which are programs makes no difference to either.
-/

open CommandShell.Effect

namespace CommandShell

namespace Console

theorem shown_append (c : Console) (stream : Stream) (texts texts' : List String) :
    c.shown stream (texts ++ texts') = c.shown stream texts ++ c.shown stream texts' := by
  simp only [shown, List.map_append, String.join_append]

theorem look_plain {c : Console} {stream : Stream} (h : stream = .out ∨ c.isColoured = false)
    (text : String) : c.look stream text = text := by
  cases stream with
  | out => rfl
  | err =>
    have hc : c.isColoured = false := h.resolve_left (by rintro ⟨⟩)
    simp [look, hc]

theorem shown_plain {c : Console} {stream : Stream} (h : stream = .out ∨ c.isColoured = false)
    (texts : List String) : c.shown stream texts = String.join texts := by
  rw [shown, funext (look_plain h), List.map_id']

end Console

namespace Emission

theorem store_names {d d' : Disk} (hn : d.SameNames d') (e : Emission) : e.store d' = e.store d := by
  funext dir path held
  rw [store, store, Target.store_names hn, Target.store_names hn]

/-- Two emissions of the same texts to the same targets. Errors that are red are red piece by piece,
so where colour shows the pieces are the same too. -/
structure Alike (coloured : Bool) (e e' : Emission) : Prop where
  cwd : e'.cwd = e.cwd
  target : e'.target = e.target
  texts : ∀ stream, String.join (e'.texts stream) = String.join (e.texts stream)
  pieces : coloured = true → e'.texts .err = e.texts .err

section Alike

variable {coloured : Bool} {es es' : List Emission}

theorem fold_alike (h : List.Forall₂ (Alike coloured) es es') (d : Disk) (dir : Ino)
    (path : String) (held : Option Bytes) :
    es'.foldl (fun held e => e.store d dir path held) held =
      es.foldl (fun held e => e.store d dir path held) held := by
  induction h generalizing held with
  | nil => rfl
  | cons hab _ ih =>
    rw [List.foldl_cons, List.foldl_cons, ih]
    simp only [store, hab.cwd, hab.target, hab.texts]

theorem join_alike (h : List.Forall₂ (Alike coloured) es es') (stream : Stream) :
    String.join (es'.flatMap (·.onConsole stream)) =
      String.join (es.flatMap (·.onConsole stream)) := by
  induction h with
  | nil => rfl
  | @cons e e' es es' hab _ ih =>
    have hhead : String.join (e'.onConsole stream) = String.join (e.onConsole stream) := by
      unfold onConsole
      rw [hab.target]
      split
      · exact hab.texts stream
      · rfl
    simp only [List.flatMap_cons, String.join_append, hhead, ih]

theorem pieces_alike (h : List.Forall₂ (Alike true) es es') :
    es'.flatMap (·.onConsole .err) = es.flatMap (·.onConsole .err) := by
  induction h with
  | nil => rfl
  | @cons e e' es es' hab _ ih =>
    have hhead : e'.onConsole .err = e.onConsole .err := by
      rw [onConsole, onConsole, hab.target, hab.pieces rfl]
    rw [List.flatMap_cons, List.flatMap_cons, hhead, ih]

theorem shown_alike {c : Console} {stream : Stream} (hc : stream = .out ∨ c.isColoured = coloured)
    (h : List.Forall₂ (Alike coloured) es es') :
    c.shown stream (es'.flatMap (·.onConsole stream)) =
      c.shown stream (es.flatMap (·.onConsole stream)) := by
  cases stream with
  | out => rw [Console.shown_plain (.inl rfl), Console.shown_plain (.inl rfl), join_alike h]
  | err =>
    cases coloured with
    | false => rw [Console.shown_plain hc, Console.shown_plain hc, join_alike h]
    | true => rw [pieces_alike h]

end Alike

end Emission

namespace Session

/-- The commands let out the emissions one after the other, and each of them fits when its turn
comes. -/
inductive Plays (sh : Session) : Machine → List Command → List Emission → Prop
  | done (m : Machine) : Plays sh m [] []
  | next {m : Machine} {c : Command} {cs : List Command} {e : Emission} {es : List Emission} :
      e.Fits m.disk → sh.Emitting m c e → Plays sh (sh.dispatch c m).2 cs es →
      Plays sh m (c :: cs) (e :: es)

theorem plays_delivers {sh : Session} {m : Machine} {cs : List Command} {es : List Emission}
    (h : sh.Plays m cs es) (hs : m.disk.Sound) :
    ∃ statuses m', cs.mapM sh.dispatch m = (.ok statuses, m') ∧
      (∀ dir path, m'.disk.content? dir path =
        es.foldl (fun held e => e.store m.disk dir path held) (m.disk.content? dir path)) ∧
      ∀ stream, m'.console stream = (m.console stream).write
        ((m.console stream).shown stream (es.flatMap (·.onConsole stream))) := by
  induction h with
  | done m => exact ⟨[], m, rfl, fun _ _ => rfl, fun stream => (write_empty _).symm⟩
  | @next m c cs e es hf he _ ih =>
    obtain ⟨status, m₁, hrun, hd⟩ := dispatch_delivers hs hf he
    rw [hrun] at ih
    obtain ⟨statuses, m', hruns, hcontents, hconsoles⟩ := ih hd.preserves.sound
    -- Names lead to the same files all along, so the folds over both disks are one.
    refine ⟨status :: statuses, m', ?_, fun dir path => ?_, fun stream => ?_⟩
    · rw [List.mapM_cons, bind_ok hrun, bind_ok hruns]
      rfl
    · rw [hcontents, hd.contents, List.foldl_cons]
      simp only [Emission.store_names hd.preserves.names]
    · rw [hconsoles, hd.consoles, write_write, List.flatMap_cons, Console.shown_append]
      rfl

/-! ## A small machine -/

def saying : Program := fun i d =>
  ⟨0, Utf8.encode (Command.argText (i.argv.drop 1) ++ "\n"), [], d⟩

def sayingMachine (content? : Option Bytes) (events : Array Event) : Machine where
  disk := ⟨#[
    .directory Disk.root (("say", 1) :: (content?.map fun _ => ("f", 2)).toList),
    .regular [] 0o755] ++ (content?.map (Node.regular · 0o644)).toArray⟩
  environment := ⟨[("PATH", "/")]⟩
  programs := fun _ => some saying
  events

def wordTo (mode : OpenMode) (name word : String) : Command :=
  { name, args := [word], out := .file "f" mode }

def printed (mode : OpenMode) (name word : String) : Emission :=
  ⟨Disk.root, (wordTo mode name word).target, (textsOn · [(.out, word ++ "\n")])⟩

def caught (mode : OpenMode) (name word : String) : Emission :=
  ⟨Disk.root, (wordTo mode name word).target, capturedTexts (Utf8.encode (word ++ "\n")) []⟩

section Small

variable {mode : OpenMode} {name word : String}

theorem fits_wordTo {d : Disk} {texts : Stream → List String} (hw : d.Writable Disk.root "f") :
    Emission.Fits ⟨Disk.root, (wordTo mode name word).target, texts⟩ d where
  targets := by
    rintro (_ | _) path hpath
    · cases hpath
      exact hw
    · cases hpath
  distinct := by
    intro path path' _ hpath'
    cases hpath'

theorem emitting_say {m m₁ : Machine} (hcwd : m.cwd = Disk.root)
    (hlook : (m.note (.external "say" [word])).lookUp "say" none = (some "/say", m₁))
    (hstart : m₁.start "/say" ["say", word] =
      .ok ("/say", ⟨0, Utf8.encode (word ++ "\n"), [], m.disk⟩)) :
    Emitting {} m (wordTo mode "say" word) (caught mode "say" word) := by
  generalize hfinished : Finished.mk 0 (Utf8.encode (word ++ "\n")) [] m.disk = finished at hstart
  have hout : finished.out = Utf8.encode (word ++ "\n") := by rw [← hfinished]
  have herr : finished.err = [] := by rw [← hfinished]
  have hdisk : finished.disk = m.disk := by rw [← hfinished]
  rw [caught, ← hcwd, ← hout, ← herr]
  exact .program rfl hlook hstart hdisk

end Small

theorem writable_new : (sayingMachine none #[]).disk.Writable Disk.root "f" :=
  ⟨rfl, .vacant Disk.root "f", rfl, rfl⟩

theorem writable_old (events : Array Event) :
    (sayingMachine (some [104, 105, 10]) events).disk.Writable Disk.root "f" :=
  ⟨rfl, .found 2, rfl, _, _, rfl, rfl⟩

theorem plays_echo : Plays {} (sayingMachine none #[])
    [wordTo .overwrite "echo" "hi", wordTo .append "say" "you"]
    [printed .overwrite "echo" "hi", caught .append "say" "you"] := by
  have hf : (printed .overwrite "echo" "hi").Fits (sayingMachine none #[]).disk :=
    fits_wordTo writable_new
  have hrun : ({} : Session).dispatch (wordTo .overwrite "echo" "hi") (sayingMachine none #[]) =
      (.ok 0, sayingMachine (some [104, 105, 10]) #[.builtin "echo" ["hi"]]) := rfl
  refine .next hf (emitting_deed {} (by decide) hf.targets hf.distinct rfl rfl rfl rfl) ?_
  rw [hrun]
  exact .next (fits_wordTo (writable_old _)) (emitting_say rfl rfl rfl) (.done _)

theorem plays_say : Plays {} (sayingMachine none #[])
    [wordTo .overwrite "say" "hi", wordTo .append "say" "you"]
    [caught .overwrite "say" "hi", caught .append "say" "you"] := by
  have hrun : ({} : Session).dispatch (wordTo .overwrite "say" "hi") (sayingMachine none #[]) =
      (.ok 0, sayingMachine (some [104, 105, 10])
        #[.external "say" ["hi"], .resolved "say" "/say", .ended "/say" 0]) := rfl
  refine .next (fits_wordTo writable_new) (emitting_say rfl rfl rfl) ?_
  rw [hrun]
  exact .next (fits_wordTo (writable_old _)) (emitting_say rfl rfl rfl) (.done _)

theorem alike_say : List.Forall₂ (Emission.Alike (sayingMachine none #[]).err.isColoured)
    [printed .overwrite "echo" "hi", caught .append "say" "you"]
    [caught .overwrite "say" "hi", caught .append "say" "you"] := by
  refine .cons ⟨rfl, rfl, ?_, by rintro ⟨⟩⟩ (.cons ⟨rfl, rfl, fun _ => rfl, fun _ => rfl⟩ .nil)
  rintro (_ | _) <;> rfl

/-! ## The store -/

/-- A run of commands is a store of files: under every path stands what comes of the content there
when the emissions are folded over it, and on every console what was meant for it, in order. Another
run from there with emissions like these, be it by programs instead of builtins, leaves the same
contents and the same consoles. -/
theorem plays_stores {sh : Session} {m : Machine} {cs : List Command} {es : List Emission}
    (hs : m.disk.Sound) (h : sh.Plays m cs es) :
    ∃ statuses m', cs.mapM sh.dispatch m = (.ok statuses, m') ∧
      (∀ dir path, m'.disk.content? dir path =
        es.foldl (fun held e => e.store m.disk dir path held) (m.disk.content? dir path)) ∧
      (∀ stream, m'.console stream = (m.console stream).write
        ((m.console stream).shown stream (es.flatMap (·.onConsole stream)))) ∧
      ∀ sh₂ m₂ cs₂ es₂, m.Agrees m₂ → Plays sh₂ m₂ cs₂ es₂ →
        List.Forall₂ (Emission.Alike m.err.isColoured) es es₂ →
        ∃ statuses₂ m₂', cs₂.mapM sh₂.dispatch m₂ = (.ok statuses₂, m₂') ∧
          (∀ dir path, m₂'.disk.content? dir path = m'.disk.content? dir path) ∧
          ∀ stream, m₂'.console stream = m'.console stream := by
  obtain ⟨statuses, m', hrun, hcontents, hconsoles⟩ := plays_delivers h hs
  refine ⟨statuses, m', hrun, hcontents, hconsoles, fun sh₂ m₂ cs₂ es₂ ha h₂ halike => ?_⟩
  obtain ⟨statuses₂, m₂', hrun₂, hcontents₂, hconsoles₂⟩ := plays_delivers h₂ (ha.disk ▸ hs)
  refine ⟨statuses₂, m₂', hrun₂, fun dir path => ?_, fun stream => ?_⟩
  · rw [hcontents₂, hcontents, ha.disk, Emission.fold_alike halike]
  · have hc : stream = .out ∨ (m.console stream).isColoured = m.err.isColoured := by
      cases stream with
      | out => exact .inl rfl
      | err => exact .inr rfl
    rw [hconsoles₂, hconsoles, ha.console, Emission.shown_alike hc halike]

theorem plays_stores_saying :
    ∃ statuses m' statuses₂ m₂',
      [wordTo .overwrite "echo" "hi", wordTo .append "say" "you"].mapM ({} : Session).dispatch
        (sayingMachine none #[]) = (.ok statuses, m') ∧
      m'.disk.content? Disk.root "f" = some (Utf8.encode "hi\nyou\n") ∧
      [wordTo .overwrite "say" "hi", wordTo .append "say" "you"].mapM ({} : Session).dispatch
        (sayingMachine none #[]) = (.ok statuses₂, m₂') ∧
      m₂'.disk.content? Disk.root "f" = some (Utf8.encode "hi\nyou\n") := by
  obtain ⟨statuses, m', hrun, hcontents, -, hexchange⟩ := plays_stores (by decide) plays_echo
  obtain ⟨statuses₂, m₂', hrun₂, hsame, -⟩ :=
    hexchange {} _ _ _ (sayingMachine none #[]).agrees_refl plays_say alike_say
  have hf : m'.disk.content? Disk.root "f" = some (Utf8.encode "hi\nyou\n") :=
    (hcontents Disk.root "f").trans rfl
  exact ⟨statuses, m', statuses₂, m₂', hrun, hf, hrun₂, (hsame _ _).trans hf⟩

end Session

end CommandShell
