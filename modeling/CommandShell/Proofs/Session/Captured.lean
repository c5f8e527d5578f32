import CommandShell.Proofs.Disk.Opening
import CommandShell.Proofs.Session.Meaning
import CommandShell.Proofs.Session.Plays
import CommandShell.Proofs.Text.Replacement

/-!
# What of a program's output comes to a file

The bytes that a program writes are read as text before they are written again. They come to the
file as they are when they are text without carriage returns, and what has come to a file once comes
to the next as it is.
-/

open CommandShell.Effect

namespace CommandShell

namespace Newline

/-- The text with a line feed for every carriage return, which takes a line feed behind it along. -/
inductive Folded : List Char → List Char → Prop
  | done : Folded [] []
  | both {cs ds : List Char} : Folded cs ds → Folded ('\r' :: '\n' :: cs) ('\n' :: ds)
  | carriage {cs ds : List Char} :
      cs.head? ≠ some '\n' → Folded cs ds → Folded ('\r' :: cs) ('\n' :: ds)
  | other {c : Char} {cs ds : List Char} : c ≠ '\r' → Folded cs ds → Folded (c :: cs) (c :: ds)

theorem unifyAfter_head {cs : List Char} (h : cs.head? ≠ some '\n') :
    unifyAfter true cs = unify cs := by
  cases cs with
  | nil => rfl
  | cons c cs =>
    have hc : c ≠ '\n' := fun he => h (he ▸ rfl)
    simp [unify, unifyAfter, hc]

theorem unify_other {c : Char} (h : c ≠ '\r') (cs : List Char) :
    unify (c :: cs) = c :: unify cs := by
  simp [unify, unifyAfter, h]

theorem unify_both (cs : List Char) : unify ('\r' :: '\n' :: cs) = '\n' :: unify cs := by
  simp [unify, unifyAfter]

theorem unify_carriage {cs : List Char} (h : cs.head? ≠ some '\n') :
    unify ('\r' :: cs) = '\n' :: unify cs := by
  rw [← unifyAfter_head h]
  simp [unify, unifyAfter]

theorem folded_unify (cs : List Char) :
    Folded cs (unify cs) ∧ Folded ('\r' :: cs) ('\n' :: unifyAfter true cs) := by
  induction cs with
  | nil => exact ⟨.done, .carriage (by simp) .done⟩
  | cons c cs ih =>
    obtain ⟨hplain, hreturned⟩ := ih
    have hfirst : Folded (c :: cs) (unify (c :: cs)) := by
      by_cases hc : c = '\r'
      · subst hc
        simpa [unify, unifyAfter] using hreturned
      · rw [unify_other hc]
        exact .other hc hplain
    refine ⟨hfirst, ?_⟩
    by_cases hc : c = '\n'
    · subst hc
      simpa [unify, unifyAfter] using Folded.both hplain
    · have hhead : (c :: cs).head? ≠ some '\n' := by simpa using hc
      rw [unifyAfter_head hhead]
      exact .carriage hhead hfirst

theorem folded_eq {cs ds : List Char} (h : Folded cs ds) : unify cs = ds := by
  induction h with
  | done => rfl
  | both _ ih => rw [unify_both, ih]
  | carriage hc _ ih => rw [unify_carriage hc, ih]
  | other hc _ ih => rw [unify_other hc, ih]

theorem folded_iff {cs ds : List Char} : Folded cs ds ↔ unify cs = ds :=
  ⟨folded_eq, fun h => h ▸ (folded_unify cs).1⟩

theorem folded_plain {cs ds : List Char} (h : Folded cs ds) : '\r' ∉ ds := by
  induction h with
  | done => exact List.not_mem_nil
  | both _ ih => simpa using ih
  | carriage _ _ ih => simpa using ih
  | other hc _ ih =>
    rw [List.mem_cons, not_or]
    exact ⟨Ne.symm hc, ih⟩

theorem unify_plain {cs : List Char} (h : '\r' ∉ cs) : unify cs = cs := by
  induction cs with
  | nil => rfl
  | cons c cs ih =>
    rw [List.mem_cons, not_or] at h
    rw [unify_other (Ne.symm h.1), ih h.2]

end Newline

/-! ## The bytes that are left of captured ones -/

namespace Utf8

theorem replaced_spell (cs : List Char) : Replaced (spell cs) cs := by
  induction cs with
  | nil => exact .done
  | cons c cs ih =>
    rw [spell_cons]
    exact .char c ih

theorem return_byte {n : Nat} (hn : n < 256) : 0x0D = UInt8.ofNat n ↔ n = 0x0D := by
  rw [← UInt8.toNat_inj, toNat_byte hn]
  exact eq_comm

theorem return_encode {c : Char} : 0x0D ∈ String.utf8EncodeChar c ↔ c = '\r' := by
  have hcode : c.val.toNat = c.toNat := rfl
  have hreturn : c = '\r' ↔ c.toNat = 0x0D := by
    constructor
    · rintro rfl
      rfl
    · intro h
      rw [← Char.ofNat_toNat c, h]
  rw [hreturn]
  unfold String.utf8EncodeChar
  simp only [hcode]
  split_ifs
  · rw [List.mem_singleton, return_byte (by omega)]
  all_goals
    simp only [List.mem_cons, List.not_mem_nil, or_false]
    repeat rw [return_byte (by omega)]
    omega

theorem return_spell {cs : List Char} : 0x0D ∈ spell cs ↔ '\r' ∈ cs := by
  simp only [spell, List.mem_flatMap, return_encode, exists_eq_right]

def WellFormed (bytes : Bytes) : Prop := ∃ cs, bytes = spell cs

end Utf8

/-- What comes to a file for bytes that were caught. -/
def capturedBytes (bytes : Bytes) : Bytes := Utf8.encode (capturedText bytes)

/-- The bytes of the text of other bytes, with replacement characters and without carriage
returns. -/
def Recoded (bytes left : Bytes) : Prop :=
  ∃ cs ds, Utf8.Replaced bytes cs ∧ Newline.Folded cs ds ∧ left = Utf8.spell ds

theorem recoded_iff {bytes left : Bytes} : Recoded bytes left ↔ capturedBytes bytes = left := by
  have hbytes : capturedBytes bytes = Utf8.spell (Newline.unify (Utf8.decodeLossy bytes)) := by
    simp [capturedBytes, capturedText, Utf8.encode, Utf8.spell]
  rw [hbytes]
  constructor
  · rintro ⟨cs, ds, hr, hf, rfl⟩
    rw [Utf8.replaced_iff.mp hr, Newline.folded_iff.mp hf]
  · exact fun h => ⟨_, _, Utf8.replaced_iff.mpr rfl, Newline.folded_iff.mpr rfl, h.symm⟩

theorem capturedBytes_eq_self {bytes : Bytes} :
    capturedBytes bytes = bytes ↔ Utf8.WellFormed bytes ∧ 0x0D ∉ bytes := by
  constructor
  · intro h
    obtain ⟨cs, ds, -, hf, hleft⟩ := recoded_iff.mpr h
    refine ⟨⟨ds, hleft⟩, ?_⟩
    rw [hleft, Utf8.return_spell]
    exact Newline.folded_plain hf
  · rintro ⟨⟨cs, rfl⟩, hn⟩
    rw [Utf8.return_spell] at hn
    have hfolded := Newline.folded_iff.mpr (Newline.unify_plain hn)
    exact recoded_iff.mp ⟨cs, cs, Utf8.replaced_spell cs, hfolded, rfl⟩

theorem capturedBytes_idempotent (bytes : Bytes) :
    capturedBytes (capturedBytes bytes) = capturedBytes bytes := by
  obtain ⟨cs, ds, -, hf, hleft⟩ := recoded_iff.mpr (Eq.refl (capturedBytes bytes))
  rw [capturedBytes_eq_self, hleft]
  exact ⟨⟨ds, rfl⟩, mt Utf8.return_spell.mp (Newline.folded_plain hf)⟩

/-! ## The file -/

theorem writeFile_stores {m m' : Machine} {path text : String} {mode : OpenMode}
    (hs : m.disk.Sound) (hfile : ¬ m.disk.IsDevice m.cwd path)
    (hw : m.writeFile path text mode = (.ok (), m')) (dir : Ino) (path' : String) :
    m'.disk.content? dir path' =
      if m.disk.sameFile m.cwd path dir path' then
        some (Disk.start mode (m.disk.content? dir path') ++ Utf8.encode text)
      else m.disk.content? dir path' := by
  have hn : Disk.isPathText path = true := by
    by_contra hn
    rw [writeFile_null (by simpa using hn)] at hw
    cases hw
  cases ho : m.disk.openForWriting m.cwd path mode with
  | error e =>
    rw [writeFile_unopened mode text m hn (by rw [Handle.openAt, ho]; rfl)] at hw
    cases hw
  | ok opened =>
    obtain ⟨i, d⟩ := opened
    have hopened := (Disk.open_ways ho).opened hs hfile
    obtain ⟨h, d', h', hwrite, hflush⟩ := fresh_written hopened (Utf8.encode text)
    rw [writeFile_opened mode text m hn (by rw [Handle.openAt, ho]; rfl) hwrite hflush] at hw
    obtain rfl := (Prod.mk.inj hw).2
    have hnames := hopened.keeps.names m.cwd path dir path'
    rw [Disk.append_contents hopened.place, hnames, Disk.opened_contents hopened]
    split
    · rfl
    · rfl

/-! ## Programs -/

/-- A command has run as a program, and what it wrote was caught. -/
inductive Machine.Captures (m : Machine) (c : Command) : Finished → Machine → Prop
  | ended {file path : String} {m' : Machine} {finished : Finished} :
      m.Means c.name (.program file) →
      m' = (m.note (.external c.name c.args)).note (.resolved c.name file) →
      m'.start file (c.name :: c.args) = .ok (path, finished) →
      Captures m c finished ({ m' with disk := finished.disk }.note (.ended file finished.status))

/-- What is brought to its target next: the bytes of a stream, on a machine, and what is to be done
after that. -/
inductive Routing (c : Command) (finished : Finished) (ended : Machine) :
    Stream → Bytes → Machine → Run Int → Prop
  | out : Routing c finished ended .out finished.out ended (do
      Run.route .err c.err (capturedText finished.err)
      return finished.status)
  | err {m : Machine} : Run.route .out c.out (capturedText finished.out) ended = (.ok (), m) →
      Routing c finished ended .err finished.err m (return finished.status)

namespace Session

theorem dispatch_captures (settings : Settings) {m ended : Machine} {c : Command}
    {finished : Finished} (h : m.Captures c finished ended) :
    ({ settings } : Session).dispatch c m = (do
      Run.route .out c.out (capturedText finished.out)
      Run.route .err c.err (capturedText finished.err)
      return finished.status : Run Int) ended := by
  cases h with
  | ended hmeans hm hstart =>
    subst hm
    rw [Meaning.dispatch_means settings hmeans]
    simp only [Meaning.run, hstart]

theorem dispatch_routing (settings : Settings) {m ended before : Machine} {c : Command}
    {finished : Finished} {stream : Stream} {bytes : Bytes} {rest : Run Int}
    (h : m.Captures c finished ended) (hr : Routing c finished ended stream bytes before rest) :
    ({ settings } : Session).dispatch c m =
      (do Run.route stream (c.target stream) (capturedText bytes); rest : Run Int) before := by
  rw [dispatch_captures settings h]
  cases hr with
  | out => rfl
  | err hout => rw [bind_ok hout]; rfl

/-- What a program writes to a stream with a file as its target comes to the file with its text
replaced where it is none and its carriage returns folded. It comes there as it is exactly when it
is text without carriage returns, and what has come there once comes to a file as it is. -/
theorem dispatch_captured (settings : Settings) {m ended before after : Machine} {c : Command}
    {finished : Finished} {stream : Stream} {bytes : Bytes} {rest : Run Int} {path : String}
    (h : m.Captures c finished ended) (hr : Routing c finished ended stream bytes before rest)
    (hp : (c.target stream).path? = some path) (hs : before.disk.Sound)
    (hfile : ¬ before.disk.IsDevice before.cwd path)
    (hw : before.writeFile path (capturedText bytes) (c.target stream).mode = (.ok (), after)) :
    ({ settings } : Session).dispatch c m = rest after ∧
      (∀ dir path', after.disk.content? dir path' =
        if before.disk.sameFile before.cwd path dir path' then
          some (Disk.start (c.target stream).mode (before.disk.content? dir path') ++
            capturedBytes bytes)
        else before.disk.content? dir path') ∧
      (∀ left, Recoded bytes left ↔ capturedBytes bytes = left) ∧
      (capturedBytes bytes = bytes ↔ Utf8.WellFormed bytes ∧ 0x0D ∉ bytes) ∧
      capturedBytes (capturedBytes bytes) = capturedBytes bytes := by
  refine ⟨?_, writeFile_stores hs hfile hw, fun _ => recoded_iff, capturedBytes_eq_self,
    capturedBytes_idempotent bytes⟩
  rw [dispatch_routing settings h hr, bind_ok (Run.route_written hp hw)]

def rawErrors : Bytes := [0xFF, 0x61, 0x0D, 0x0A, 0x62, 0x0D]

def rawMachine : Machine :=
  { sayingMachine (some [0x68]) #[] with
    programs := fun _ => some fun _ d => ⟨0, [], rawErrors, d⟩ }

def rawSay : Command := { name := "say", err := .file "f" .append }

def rawEnded : Machine :=
  ((rawMachine.note (.external "say" [])).note (.resolved "say" "/say")).note (.ended "/say" 0)

theorem captures_raw : rawMachine.Captures rawSay ⟨0, [], rawErrors, rawMachine.disk⟩ rawEnded :=
  @Machine.Captures.ended _ _ "/say" "/say" _ _ (.program (by decide) rfl) rfl rfl

theorem dispatch_captured_raw :
    (({} : Session).dispatch rawSay rawMachine).1 = .ok 0 ∧
      (({} : Session).dispatch rawSay rawMachine).2.disk.content? Disk.root "f" =
        some [0x68, 0xEF, 0xBF, 0xBD, 0x61, 0x0A, 0x62, 0x0A] := by
  have hfile : ¬ rawEnded.disk.IsDevice rawEnded.cwd "f" := by
    rintro ⟨i, device, hplace, hnode⟩
    obtain rfl : 2 = i := by simpa using Except.ok.inj hplace
    cases hnode
  obtain ⟨hrun, hcontents, -⟩ :=
    dispatch_captured {} captures_raw (.err rfl) rfl (by decide) hfile rfl
  rw [hrun]
  exact ⟨rfl, (hcontents Disk.root "f").trans rfl⟩

end Session

end CommandShell
