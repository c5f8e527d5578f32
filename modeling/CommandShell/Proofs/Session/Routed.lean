import CommandShell.Proofs.Disk.Sound
import CommandShell.Proofs.File.Deposit
import CommandShell.Proofs.Session.Said

/-!
# The two texts of a program

What was caught of a program on its two streams is brought to two targets, one after the other. Each
text comes to its target as if it were the only one, or one line tells why it did not, and the
status of the program is passed on in any case.
-/

open CommandShell.Effect

namespace CommandShell

def Finished.text (f : Finished) : Stream → String
  | .out => capturedText f.out
  | .err => capturedText f.err

namespace Disk

theorem sameFile_other {d : Disk} {cwd dir : Ino} {target other path : String}
    (h : d.sameFile cwd target cwd other = false) (hp : d.sameFile cwd target dir path = true) :
    d.sameFile cwd other dir path = false := by
  rw [← Bool.not_eq_true]
  intro hp'
  obtain ⟨p, htarget, hpath⟩ := sameFile_iff.mp hp
  obtain ⟨p', hother, hpath'⟩ := sameFile_iff.mp hp'
  obtain rfl := Except.ok.inj (hpath.symm.trans hpath')
  rw [sameFile_iff.mpr ⟨p, htarget, hother⟩] at h
  cases h

theorem Spares.mono {among among' : String → Prop} {cwd : Ino} {d d' : Disk}
    (h : d.Spares among cwd d') (hsub : ∀ path, among path → among' path) :
    d.Spares among' cwd d' where
  sound := h.sound
  names := h.names
  places := h.places
  files := fun dir path hother => h.files dir path fun target ht => hother target (hsub target ht)

theorem Spares.content? {among : String → Prop} {cwd : Ino} {d d' : Disk}
    (h : d.Spares among cwd d') {dir : Ino} {path : String}
    (hother : ∀ target, among target → d.sameFile cwd target dir path = false) :
    d'.content? dir path = d.content? dir path := by
  rw [content?_fileAt, content?_fileAt, h.files dir path hother]

theorem sameFile_comm (d : Disk) (cwd dir : Ino) (path path' : String) :
    d.sameFile cwd path dir path' = d.sameFile dir path' cwd path := by
  rw [Bool.eq_iff_iff, sameFile_iff, sameFile_iff]
  exact exists_congr fun _ => and_comm

end Disk

/-! ## One text -/

namespace Target

/-- The target is the console, or the end of its path can be opened and takes all of the text. -/
def Reached (t : Target) (text : String) (m : Machine) : Prop :=
  ∀ path, t.path? = some path → ∃ p, m.disk.place .create m.cwd path = .ok p ∧
    m.disk.admits (Utf8.encode text) p = true

def Deposits (t : Target) (text : String) (cwd : Ino) (d d' : Disk) : Prop :=
  match t.path? with
  | none => d' = d
  | some path => d.deposit cwd path t.mode (Utf8.encode text) = .ok d'

variable {t t' : Target} {text text' : String} {cwd : Ino} {d d' : Disk} {m m' : Machine}

theorem isPathText_of {path : String} (hn : ¬ t.HasNullByte) (hp : t.path? = some path) :
    Disk.isPathText path = true := by
  rw [← Bool.not_eq_false]
  exact fun h => hn ⟨path, hp, h⟩

theorem reached_iff :
    t.Reached text m ↔ ∀ path, t.path? = some path →
      (m.disk.deposit m.cwd path t.mode (Utf8.encode text)).isOk = true := by
  refine forall₂_congr fun path _ => ?_
  rw [Disk.deposit_isOk]
  cases m.disk.place .create m.cwd path <;> simp

theorem Deposits.spares {among : String → Prop} (h : t.Deposits text cwd d d') (hs : d.Sound)
    (hamong : ∀ path, t.path? = some path → among path) : d.Spares among cwd d' := by
  unfold Deposits at h
  split at h
  · rw [h]
    exact Disk.spares_refl hs
  · next path hp => exact Disk.deposit_spares hs (hamong path hp) h

theorem Deposits.stores (h : t.Deposits text cwd d d') (hs : d.Sound) {path : String}
    (hp : t.path? = some path) (hfile : ¬ d.IsDevice cwd path) {dir : Ino} {path' : String}
    (hsame : d.sameFile cwd path dir path' = true) :
    d'.content? dir path' =
      some (Disk.start t.mode (d.content? dir path') ++ Utf8.encode text) := by
  rw [Deposits, hp] at h
  exact Disk.deposit_stores hs hfile h hsame

theorem Distinct.comm (h : t.Distinct t' d cwd) : t'.Distinct t d cwd := by
  intro path path' hp hp'
  rw [Disk.sameFile_comm]
  exact h path' path hp' hp

section Apart

variable (h : t.Deposits text cwd d d') (hs : d.Sound) (hd : t.Distinct t' d cwd)

include h hs hd

theorem Deposits.apart (text' : String) {path' : String} (hp' : t'.path? = some path') :
    (d'.deposit cwd path' t'.mode (Utf8.encode text')).isOk =
      (d.deposit cwd path' t'.mode (Utf8.encode text')).isOk := by
  unfold Deposits at h
  split at h
  · rw [h]
  · next path hp => exact Disk.deposit_apart hs h (hd path path' hp hp') _ _

theorem Deposits.isDevice {path' : String} (hp' : t'.path? = some path')
    (hdevice : d'.IsDevice cwd path') : d.IsDevice cwd path' := by
  unfold Deposits at h
  split at h
  · rwa [h] at hdevice
  · next path hp => exact Disk.deposit_isDevice hs h (hd path path' hp hp') hdevice

end Apart

/-- What bringing a text to the target does to the disk: nothing when it is lost. -/
structure Carried (t : Target) (text : String) (m m' : Machine) : Prop where
  cwd : m'.cwd = m.cwd
  reached : t.Reached text m → t.Deposits text m.cwd m.disk m'.disk
  lost : ¬ t.Reached text m → m'.disk = m.disk

namespace Carried

variable (h : t.Carried text m m') (hs : m.disk.Sound)

include h hs

theorem spares : m.disk.Spares (fun path => t.path? = some path ∧ t.Reached text m) m.cwd
    m'.disk := by
  by_cases hr : t.Reached text m
  · exact (h.reached hr).spares hs fun path hp => ⟨hp, hr⟩
  · rw [h.lost hr]
    exact Disk.spares_refl hs

variable (hd : t.Distinct t' m.disk m.cwd)

include hd

theorem reached_apart (text' : String) : t'.Reached text' m' ↔ t'.Reached text' m := by
  rw [reached_iff, reached_iff, h.cwd]
  refine forall₂_congr fun path hp => ?_
  by_cases hr : t.Reached text m
  · rw [(h.reached hr).apart hs hd text' hp]
  · rw [h.lost hr]

theorem isDevice_apart {path : String} (hp : t'.path? = some path)
    (hdevice : m'.disk.IsDevice m.cwd path) : m.disk.IsDevice m.cwd path := by
  by_cases hr : t.Reached text m
  · exact (h.reached hr).isDevice hs hd hp hdevice
  · rwa [h.lost hr] at hdevice

theorem content?_apart {path : String} (hp : t'.path? = some path) {dir : Ino} {path' : String}
    (hsame : m.disk.sameFile m.cwd path dir path' = true) :
    m'.disk.content? dir path' = m.disk.content? dir path' := by
  refine (h.spares hs).content? fun target htarget => ?_
  refine Disk.sameFile_other ?_ hsame
  rw [Disk.sameFile_comm]
  exact hd target path htarget.1 hp

end Carried

/-- The text is where it was to go: on the console, or behind what the file of the target starts
with, under every path of that file. -/
structure Arrived (t : Target) (stream : Stream) (text : String) (before after : Machine)
    (rows : List (Stream × String)) : Prop where
  rows : rows = if t.isConsole = true ∧ text ≠ "" then [(stream, text)] else []
  stored : ∀ path, t.path? = some path → ¬ before.disk.IsDevice before.cwd path →
    ∀ dir path', before.disk.sameFile before.cwd path dir path' = true →
      after.disk.content? dir path' =
        some (Disk.start t.mode (before.disk.content? dir path') ++ Utf8.encode text)

/-- The text is lost where it is to be written, and one line tells why. -/
def Lost (t : Target) (text : String) (m : Machine) (rows : List (Stream × String)) : Prop :=
  ∃ path e path?, t.path? = some path ∧
    m.disk.deposit m.cwd path t.mode (Utf8.encode text) = .error e ∧
    (m.writeFile path text t.mode).1 = .error (.system e path?) ∧
    rows = [(.err, s!"Error writing to {path}: {e.text}\n")]

structure Brings (t : Target) (stream : Stream) (text : String) (m m' : Machine)
    (rows : List (Stream × String)) : Prop where
  carried : t.Carried text m m'
  shown : m.Shows rows m'
  whole : t.Reached text m →
    rows = if t.isConsole = true ∧ text ≠ "" then [(stream, text)] else []
  lost : ¬ t.Reached text m → t.Lost text m rows

section Brings

variable {stream : Stream} {rows : List (Stream × String)}

theorem brings_whole (hreached : t.Reached text m) (hcwd : m'.cwd = m.cwd)
    (hd : t.Deposits text m.cwd m.disk m'.disk) (hshown : m.Shows rows m')
    (hrows : rows = if t.isConsole = true ∧ text ≠ "" then [(stream, text)] else []) :
    t.Brings stream text m m' rows where
  carried := ⟨hcwd, fun _ => hd, fun hlost => absurd hreached hlost⟩
  shown := hshown
  whole := fun _ => hrows
  lost := fun hlost => absurd hreached hlost

theorem Lost.not_reached (h : t.Lost text m rows) : ¬ t.Reached text m := by
  obtain ⟨path, e, path?, hp, hd, -⟩ := h
  intro hreached
  have hok := reached_iff.mp hreached path hp
  rw [hd] at hok
  cases hok

theorem brings_lost (hlost : t.Lost text m rows) (hcwd : m'.cwd = m.cwd)
    (hd : m'.disk = m.disk) (hshown : m.Shows rows m') : t.Brings stream text m m' rows where
  carried := ⟨hcwd, fun hreached => absurd hreached hlost.not_reached, fun _ => hd⟩
  shown := hshown
  whole := fun hreached => absurd hreached hlost.not_reached
  lost := fun _ => hlost

end Brings

section Apart

variable {stream stream' : Stream} {m'' : Machine} {rows rows' : List (Stream × String)}
  (h : t.Brings stream text m m' rows)
  (h' : t'.Brings stream' text' m' m'' rows') (hs : m.disk.Sound)
  (hd : t.Distinct t' m.disk m.cwd)

include h h' hs hd

theorem Brings.arrived_first (hr : t.Reached text m) : t.Arrived stream text m m'' rows := by
  refine ⟨h.whole hr, fun path hp hfile dir path' hsame => ?_⟩
  have hspares := h.carried.spares hs
  have hd' := (distinct_names hspares.names hd).comm
  have hsame' := (hspares.names m.cwd path dir path').trans hsame
  rw [← h.carried.cwd] at hd' hsame'
  rw [h'.carried.content?_apart hspares.sound hd' hp hsame']
  exact (h.carried.reached hr).stores hs hp hfile hsame

theorem Brings.arrived_second (hr : t'.Reached text' m) :
    t'.Arrived stream' text' m m'' rows' := by
  have hr' := (h.carried.reached_apart hs hd text').mpr hr
  refine ⟨h'.whole hr', fun path hp hfile dir path' hsame => ?_⟩
  have hspares := h.carried.spares hs
  have hsame' := (hspares.names m.cwd path dir path').trans hsame
  have hfile' : ¬ m'.disk.IsDevice m'.cwd path := by
    rw [h.carried.cwd]
    exact fun hdevice => hfile (h.carried.isDevice_apart hs hd hp hdevice)
  rw [← h.carried.cwd] at hsame'
  rw [(h'.carried.reached hr').stores hspares.sound hp hfile' hsame',
    h.carried.content?_apart hs hd hp hsame]

end Apart

end Target

namespace Session

open Target

section One

variable {stream : Stream} {t : Target} {text : String} {m : Machine}

theorem route_brings_console (hp : t.path? = none) :
    ∃ m', Run.route stream t text m = (.ok (), m') ∧
      t.Brings stream text m m' (routeTexts stream t text m) := by
  have hshown := route_shows stream t text m
  rw [Run.route_console hp] at hshown ⊢
  have hkept : (if text.isEmpty then m else m.print stream text).cwd = m.cwd ∧
      (if text.isEmpty then m else m.print stream text).disk = m.disk := by
    split
    · exact ⟨rfl, rfl⟩
    · cases stream <;> exact ⟨rfl, rfl⟩
  refine ⟨_, rfl, brings_whole (fun path hpath => ?_) hkept.1 ?_ hshown ?_⟩
  · cases hp.symm.trans hpath
  · rw [Deposits, hp]
    exact hkept.2
  · by_cases ht : text = "" <;> simp [routeTexts, hp, Target.isConsole, ht]

theorem route_brings_file {path : String} (hp : t.path? = some path) (hn : ¬ t.HasNullByte) :
    ∃ m', Run.route stream t text m = (.ok (), m') ∧
      t.Brings stream text m m' (routeTexts stream t text m) := by
  have hshown := route_shows stream t text m
  rcases writeFile_deposit m (isPathText_of hn hp) text t.mode with
    ⟨d, hd, hw⟩ | ⟨e, path?, hd, hw⟩
  · rw [Run.route_written hp hw] at hshown ⊢
    refine ⟨_, rfl, brings_whole (reached_iff.mpr fun path' hpath' => ?_) rfl ?_ hshown ?_⟩
    · cases hp.symm.trans hpath'
      rw [hd]
      rfl
    · rw [Deposits, hp]
      exact hd
    · simp [routeTexts, hp, hw, Target.isConsole]
  · have hne : s!"Error writing to {path}: {e.text}\n" ≠ "" :=
      Builtin.append_ne_empty _ (by decide)
    have hroute : Run.route stream t text m =
        (.ok (), m.print .err s!"Error writing to {path}: {e.text}\n") := by
      rw [Run.route_reported hp hw, ← complain_print hne]
      rfl
    rw [hroute] at hshown ⊢
    refine ⟨_, rfl, brings_lost ⟨path, e, path?, hp, hd, by rw [hw], ?_⟩ rfl rfl hshown⟩
    simp only [routeTexts, hp, hw]

theorem route_brings (hn : ¬ t.HasNullByte) (stream : Stream) (text : String) (m : Machine) :
    ∃ m', Run.route stream t text m = (.ok (), m') ∧
      t.Brings stream text m m' (routeTexts stream t text m) := by
  cases hp : t.path? with
  | none => exact route_brings_console hp
  | some path => exact route_brings_file hp hn

end One

/-! ## Both texts -/

/-- How the texts of two streams fare on their way to their targets: each one arrives or is lost as
if there were no other, and what is shown of the first comes first. -/
structure Routed (t : Stream → Target) (text : Stream → String) (before between after : Machine)
    (rows : Stream → List (Stream × String)) : Prop where
  shown : before.Shows (rows .out ++ rows .err) after
  arrived : ∀ stream, (t stream).Reached (text stream) before →
    (t stream).Arrived stream (text stream) before after (rows stream)
  lostOut : ¬ (t .out).Reached (text .out) before →
    between.disk = before.disk ∧ (t .out).Lost (text .out) before (rows .out)
  lostErr : ¬ (t .err).Reached (text .err) before → (t .err).Lost (text .err) between (rows .err)
  spared : before.disk.Spares (fun path => ∃ stream, (t stream).path? = some path ∧
    (t stream).Reached (text stream) before) before.cwd after.disk

section Both

variable {t : Stream → Target} {text : Stream → String} {before between after : Machine}

theorem route_both (text : Stream → String) (hn : ∀ stream, ¬ (t stream).HasNullByte)
    (hs : before.disk.Sound) (hd : (t .out).Distinct (t .err) before.disk before.cwd) :
    ∃ between after rows,
      Run.route .out (t .out) (text .out) before = (.ok (), between) ∧
      Run.route .err (t .err) (text .err) between = (.ok (), after) ∧
      Routed t text before between after rows := by
  obtain ⟨between, hout, h⟩ := route_brings (hn .out) .out (text .out) before
  obtain ⟨after, herr, h'⟩ := route_brings (hn .err) .err (text .err) between
  have hreached := h.carried.reached_apart hs hd (text .err)
  refine ⟨between, after, fun
    | .out => routeTexts .out (t .out) (text .out) before
    | .err => routeTexts .err (t .err) (text .err) between, hout, herr, h.shown.trans h'.shown, ?_,
    fun hlost => ⟨h.carried.lost hlost, h.lost hlost⟩,
    fun hlost => h'.lost fun hr => hlost (hreached.mp hr), ?_⟩
  · rintro (_ | _) hr
    · exact h.arrived_first h' hs hd hr
    · exact h.arrived_second h' hs hd hr
  · have hspares := h.carried.spares hs
    have hspares' := h'.carried.spares hspares.sound
    rw [h.carried.cwd] at hspares'
    refine (hspares.mono fun path hpath => ?_).trans (hspares'.mono fun path hpath => ?_)
    · exact ⟨.out, hpath⟩
    · exact ⟨.err, hpath.1, hreached.mp hpath.2⟩

end Both

/-- Of a program that was started every text goes its own way, and the status of the program is
passed on whatever becomes of them. What cannot be written to one target is neither missing nor
changed on the other. -/
theorem program_routes {c : Command} {m m₁ : Machine} {path? : Option String} {file : String}
    {started : String × Finished} (hfound : m.lookUp c.name path? = (some file, m₁))
    (hstart : m₁.start file (c.name :: c.args) = .ok started)
    (hn : ∀ stream, ¬ (c.target stream).HasNullByte) (hs : started.2.disk.Sound)
    (hd : c.out.Distinct c.err started.2.disk m₁.cwd) :
    ∃ before between after rows,
      before = { m₁ with disk := started.2.disk }.note (.ended file started.2.status) ∧
      Run.route .out c.out (started.2.text .out) before = (.ok (), between) ∧
      Run.program c.name c.args c.out c.err path? m = (.ok started.2.status, after) ∧
      Routed c.target started.2.text before between after rows := by
  obtain ⟨before, hbefore⟩ : ∃ before, before =
      ({ m₁ with disk := started.2.disk } : Machine).note (.ended file started.2.status) := ⟨_, rfl⟩
  have hs' : before.disk.Sound := hbefore ▸ hs
  have hd' : (c.target .out).Distinct (c.target .err) before.disk before.cwd := hbefore ▸ hd
  obtain ⟨between, after, rows, hout, herr, hrouted⟩ := route_both started.2.text hn hs' hd'
  refine ⟨before, between, after, rows, hbefore, hout, ?_, hrouted⟩
  rw [Run.program_started c.out c.err hfound hstart, ← hbefore]
  exact (bind_ok hout).trans (bind_ok herr)

def killed : Program := fun _ d => ⟨-9, Utf8.encode "o", Utf8.encode "e", d⟩

def fullMachine : Machine where
  disk := ⟨#[
    .directory Disk.root [("p", 1), ("full", 2), ("f", 3)],
    .regular [] 0o755,
    .device (.failing .noSpace),
    .regular (Utf8.encode "old ") 0o644]⟩
  environment := ⟨[("PATH", "/")]⟩
  programs := fun _ => some killed

def killedToFull : Command :=
  { name := "p", args := [], out := .file "full" .overwrite, err := .file "f" .append }

def killedBefore : Machine :=
  (fullMachine.note (.resolved "p" "/p")).note (.ended "/p" (-9))

theorem program_routes_full :
    ∃ after, Run.program "p" [] killedToFull.out killedToFull.err none fullMachine =
        (.ok (-9), after) ∧
      after.err.text = "Error writing to full: No space left on device\n" ∧ after.out.text = "" ∧
      after.disk.content? Disk.root "f" = some (Utf8.encode "old e") := by
  have hlook : fullMachine.lookUp "p" none =
      (some "/p", fullMachine.note (.resolved "p" "/p")) := rfl
  have hstart : (fullMachine.note (.resolved "p" "/p")).start "/p" ["p"] =
      .ok ("/p", ⟨-9, Utf8.encode "o", Utf8.encode "e", fullMachine.disk⟩) := rfl
  have hn : ∀ stream, ¬ (killedToFull.target stream).HasNullByte := by
    rintro (_ | _) ⟨path, hp, hnull⟩ <;> cases hp <;> cases hnull
  have hd : killedToFull.out.Distinct killedToFull.err fullMachine.disk Disk.root := by
    intro path path' hp hp'
    cases hp
    cases hp'
    decide
  obtain ⟨before, between, after, rows, hbefore, -, hrun, hrouted⟩ :=
    @program_routes killedToFull _ _ _ _ _ hlook hstart hn (by decide) hd
  obtain rfl : before = killedBefore := hbefore
  have hout : capturedText (Utf8.encode "o") = "o" := by decide +kernel
  have herr : capturedText (Utf8.encode "e") = "e" := by decide +kernel
  have hfull : (killedBefore.writeFile "full" (capturedText (Utf8.encode "o")) .overwrite).1 =
      .error (.system .noSpace none) := by rw [hout]; rfl
  have hadmits : killedBefore.disk.admits (Utf8.encode (capturedText (Utf8.encode "o")))
      (.found 2) = false := by rw [hout]; rfl
  obtain ⟨-, path, e, path?, hp, -, he, hrows⟩ := hrouted.lostOut fun hreached => by
    obtain ⟨p, hplace, hadmits'⟩ := hreached "full" rfl
    have hp : killedBefore.disk.place .create killedBefore.cwd "full" = .ok (.found 2) := rfl
    cases hp.symm.trans hplace
    cases hadmits.symm.trans hadmits'
  obtain ⟨hrows', hstored⟩ := hrouted.arrived .err fun path hp => by
    cases hp
    exact ⟨.found 3, rfl, rfl⟩
  cases hp
  cases hfull.symm.trans he
  have hfile : ¬ killedBefore.disk.IsDevice killedBefore.cwd "f" := by
    rintro ⟨i, device, hplace, hn⟩
    have hi : killedBefore.disk.place .use killedBefore.cwd "f" = .ok (.found 3) := rfl
    cases hplace.symm.trans hi
    cases hn
  have hshown := hrouted.shown
  rw [hrows, hrows'] at hshown
  refine ⟨after, hrun, ?_, ?_, ?_⟩
  · exact (congrArg Console.text (hshown .err)).trans (by decide +kernel)
  · exact (congrArg Console.text (hshown .out)).trans (by decide +kernel)
  · refine (hstored "f" rfl hfile Disk.root "f" (by decide)).trans ?_
    show some (Utf8.encode "old " ++ Utf8.encode (capturedText (Utf8.encode "e"))) = _
    rw [herr]
    rfl

end Session

end CommandShell
