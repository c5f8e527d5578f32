import CommandShell.Proofs.Command.Emission
import CommandShell.Proofs.Command.Route

/-!
# Opening what can be written

A target that can be written is opened as it is asked for, by the sink of a builtin and for the
output of a program alike.
-/

open CommandShell.Effect

namespace CommandShell

/-- The target is the console, or a file that can be opened and written. -/
def Target.Fits (t : Target) (d : Disk) (cwd : Ino) : Prop :=
  ∀ path, t.path? = some path → d.Writable cwd path

theorem fits_preserves {t : Target} {d d' : Disk} {cwd : Ino} (h : t.Fits d cwd)
    (hk : d.Preserves d') : t.Fits d' cwd :=
  fun path hp => hk.writable (h path hp)

/-! ## Handles -/

theorem fresh_aligned {d d' : Disk} {cwd i : Ino} {path : String} {mode : OpenMode}
    (h : d.Opened d' cwd path mode i) : Handle.Aligned { node := i, mode } d' := by
  obtain ⟨rights, hf⟩ := h.file
  exact Handle.aligned_start hf

theorem fresh_written {d d' : Disk} {cwd i : Ino} {path : String} {mode : OpenMode}
    (h : d.Opened d' cwd path mode i) (bytes : Bytes) :
    ∃ h₁ d₁ h₂, Handle.write bytes ({ node := i, mode }, d') = (.ok (), h₁, d₁) ∧
      Handle.flush (h₁, d₁) = (.ok (), h₂, d'.append i bytes) := by
  obtain ⟨h₁, written, hwrite, -, ha, hset⟩ := Handle.write_aligned (fresh_aligned h) bytes
  obtain ⟨h₂, hflush, -⟩ := Handle.flush_aligned ha
  have hd : h₁.settled (d'.append i written) = d'.append i bytes := by
    rw [hset d']
    simp only [Handle.settled, List.append_nil, Disk.append_nil]
  rw [hd] at hflush
  exact ⟨h₁, _, h₂, hwrite, hflush⟩

theorem openAt_writable {d : Disk} {cwd : Ino} {path : String} (hs : d.Sound)
    (hw : d.Writable cwd path) (mode : OpenMode) :
    ∃ i d', Handle.openAt d cwd path mode = .ok ({ node := i, mode }, d') ∧
      d.Opened d' cwd path mode i := by
  obtain ⟨i, d', ho, hopened⟩ := Disk.open_writable hs hw mode
  exact ⟨i, d', by rw [Handle.openAt, ho]; rfl, hopened⟩

/-! ## Sinks -/

theorem ofTarget_opened {t : Target} {m : Machine} {path : String} (hs : m.disk.Sound)
    (hp : t.path? = some path) (hw : m.disk.Writable m.cwd path) (stream : Stream) :
    ∃ i d, Sink.ofTarget stream t m =
        .ok (⟨stream, .file { node := i, mode := t.mode }, path, false⟩, { m with disk := d }) ∧
      m.disk.Opened d m.cwd path t.mode i := by
  obtain ⟨i, d, ho, hopened⟩ := openAt_writable hs hw t.mode
  refine ⟨i, d, ?_, hopened⟩
  simp only [Sink.ofTarget, hp, Sink.toFile, hw.1, ho]
  rfl

theorem ofTarget_fits {t : Target} {m : Machine} (hs : m.disk.Sound) (ht : t.Fits m.disk m.cwd)
    (stream : Stream) :
    ∃ s d, Sink.ofTarget stream t m = .ok (s, { m with disk := d }) ∧ s.stream = stream ∧
      s.Ready d ∧ (∀ d', s.settled d' = d') ∧ t.Opens m.disk d m.cwd s.port? := by
  cases hp : t.path? with
  | none =>
    refine ⟨Sink.toConsole stream, m.disk, ?_, rfl, ⟨rfl, Or.inl rfl⟩, fun _ => rfl, ?_⟩
    · rw [Sink.ofTarget, hp]
    · rw [Target.Opens, hp]
      exact ⟨rfl, rfl⟩
  | some path =>
    obtain ⟨i, d, ho, hopened⟩ := ofTarget_opened hs hp (ht path hp) stream
    refine ⟨_, d, ho, rfl, ⟨rfl, Or.inr ⟨_, rfl, fresh_aligned hopened⟩⟩,
      fun d' => d'.append_nil i, ?_⟩
    rw [Target.Opens, hp]
    exact ⟨i, rfl, hopened⟩

theorem ready_opens {s : Sink} {t : Target} {d d' : Disk} {cwd : Ino} {port? : Option Ino}
    (hr : s.Ready d) (ho : t.Opens d d' cwd port?) (ha : Disk.Apart s.port? port?) :
    s.Ready d' := by
  unfold Target.Opens at ho
  cases hp : t.path? with
  | none =>
    rw [hp] at ho
    rw [ho.2]
    exact hr
  | some path =>
    rw [hp] at ho
    obtain ⟨i, rfl, hopened⟩ := ho
    refine ⟨hr.opened, hr.outlet.imp id ?_⟩
    rintro ⟨h, hout, content, rights, hf, hpos⟩
    -- Opening may empty a file, but not the one that this sink stands on.
    have hne : h.node ≠ i := by
      rintro rfl
      exact ha h.node (by rw [Sink.port?, hout]) rfl
    have hf' := hopened.others h.node hne _ hf
    refine ⟨h, hout, content, rights, hf', ?_⟩
    rw [← hpos]
    unfold Handle.position
    rw [Handle.size_file hf, Handle.size_file hf']

theorem distinct_apart {t t' : Target} {d : Disk} {cwd : Ino} {p q : Option Ino}
    (h : t.Distinct t' d cwd) (hp : t.LeadsTo d cwd p) (hq : t'.LeadsTo d cwd q) :
    Disk.Apart p q := by
  rintro i rfl rfl
  unfold Target.LeadsTo at hp hq
  cases ht : t.path? with
  | none =>
    rw [ht] at hp
    cases hp
  | some path =>
    cases ht' : t'.path? with
    | none =>
      rw [ht'] at hq
      cases hq
    | some path' =>
      rw [ht] at hp
      rw [ht'] at hq
      obtain ⟨j, hj, hplace⟩ := hp
      obtain ⟨k, hk, hplace'⟩ := hq
      cases hj
      cases hk
      have hsame := Disk.sameFile_iff.mpr ⟨_, hplace, hplace'⟩
      rw [h path path' ht ht'] at hsame
      cases hsame

/-! ## The output of a program -/

theorem route_fits {t : Target} {m : Machine} (hs : m.disk.Sound) (ht : t.Fits m.disk m.cwd)
    (stream : Stream) (text : String) :
    ∃ m' d port?, Run.route stream t text m = (.ok (), m') ∧ m'.cwd = m.cwd ∧
      t.Opens m.disk d m.cwd port? ∧
      Machine.Agrees { m.receive stream port? text with
        disk := d.appendAt port? (Utf8.encode text) } m' := by
  cases hp : t.path? with
  | none =>
    have hm : (if text.isEmpty then m else m.print stream text) = m.receive stream none text := rfl
    refine ⟨_, m.disk, none, Run.route_console hp, ?_, ?_, ?_⟩
    · rw [hm, receive_cwd]
    · simp [Target.Opens, hp]
    · rw [hm]
      exact ⟨receive_disk m stream none text, fun _ => rfl⟩
  | some path =>
    have hw := ht path hp
    obtain ⟨i, d, ho, hopened⟩ := openAt_writable hs hw t.mode
    obtain ⟨h', d', h'', hwrite, hflush⟩ := fresh_written hopened (Utf8.encode text)
    refine ⟨_, d, some i, Run.route_written hp (writeFile_opened _ _ _ hw.1 ho hwrite hflush), rfl,
      ?_, ⟨rfl, fun _ => rfl⟩⟩
    simp only [Target.Opens, hp]
    exact ⟨i, rfl, hopened⟩

theorem route_delivers {t : Target} {m : Machine} (hs : m.disk.Sound)
    (ht : t.Fits m.disk m.cwd) (stream : Stream) (text : String) :
    ∃ m', Run.route stream t text m = (.ok (), m') ∧ m'.cwd = m.cwd ∧
      m.disk.Preserves m'.disk ∧
      (∀ dir path, m'.disk.content? dir path =
        t.store m.disk m.cwd text dir path (m.disk.content? dir path)) ∧
      ∀ other, m'.console other =
        if other = stream ∧ t.isConsole = true then
          (m.console other).write ((m.console other).look stream text)
        else m.console other := by
  obtain ⟨m', d, port?, hroute, hcwd, hopens, hagrees⟩ := route_fits hs ht stream text
  obtain ⟨hpreserves, hcontents⟩ := Target.store_contents hs hopens text
  have hdisk : m'.disk = d.appendAt port? (Utf8.encode text) := hagrees.disk
  refine ⟨m', hroute, hcwd, hdisk ▸ hpreserves, hdisk ▸ hcontents, fun other => ?_⟩
  have hconsole : m'.console other = (m.receive stream port? text).console other :=
    hagrees.console other
  simp only [hconsole, receive_console, Target.opens_console hopens]

end CommandShell
