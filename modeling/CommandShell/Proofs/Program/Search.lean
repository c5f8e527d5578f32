import CommandShell.Program
import CommandShell.Proofs.Command.Deed
import CommandShell.Proofs.Disk.Naming

/-!
# Which file a program is started from

A name is looked up on a search path, and what is found there is started by its path. A path with a
slash is started as it is. The one found in an empty directory is the bare name, which is searched
for once more.
-/

namespace CommandShell

/-! ## Paths that are put together -/

theorem join_empty (name : String) : Path.join "" name = name := by
  simp [Path.join]

theorem slash_mem_join {directory : String} (h : directory ≠ "") (name : String) :
    '/' ∈ (Path.join directory name).toList := by
  unfold Path.join
  split
  · next habs =>
    simp only [Path.isAbsolute, decide_eq_true_eq] at habs
    exact List.mem_of_mem_head? habs
  · split
    · next hend =>
      simp only [String.isEmpty_iff, h, decide_eq_true_eq, Bool.or_eq_true, false_or] at hend
      simp [List.mem_of_getLast? hend]
    · simp

theorem isPathText_iff {text : String} : Disk.isPathText text = true ↔ '\x00' ∉ text.toList := by
  simp [Disk.isPathText]

theorem isPathText_join {directory name : String} (hd : Disk.isPathText directory = true)
    (hn : Disk.isPathText name = true) : Disk.isPathText (Path.join directory name) = true := by
  rw [isPathText_iff] at hd hn ⊢
  unfold Path.join
  split
  · exact hn
  · split
    · simp [hd, hn]
    · simp [hd, hn]

theorem isPathText_separate {separator : Char} {path piece : String}
    (h : Disk.isPathText path = true) (hp : piece ∈ separate separator path) :
    Disk.isPathText piece = true := by
  obtain ⟨cs, hcs, rfl⟩ := List.mem_map.mp hp
  rw [isPathText_iff] at h ⊢
  rw [String.toList_ofList]
  intro hc
  exact h (separateChars_mem hcs hc).1

namespace Machine

variable {m m₁ : Machine} {name file path : String} {given? : Option String} {argv : List String}

/-! ## Looking up -/

theorem lookUp_some (h : m.lookUp name given? = (some file, m₁)) :
    m.findProgram? name given? = some file ∧ m₁ = m.note (.resolved name file) := by
  unfold lookUp at h
  cases hf : m.findProgram? name given? with
  | none => simp [hf] at h
  | some path =>
    simp only [hf, Prod.mk.injEq, Option.some.injEq] at h
    obtain ⟨rfl, rfl⟩ := h
    exact ⟨rfl, rfl⟩

theorem lookUp_found (h : m.findProgram? name given? = some file) :
    m.lookUp name given? = (some file, m.note (.resolved name file)) := by
  rw [lookUp, h]

theorem lookUp_missing (h : m.findProgram? name given? = none) :
    m.lookUp name given? = (none, m) := by
  rw [lookUp, h]

theorem findProgram?_some (h : m.findProgram? name given? = some file) :
    m.hasProgram file = true ∧ ∃ before directory after,
      searchDirectories (m.searchPath given?) = before ++ directory :: after ∧
        Path.join directory name = file ∧
        ∀ d ∈ before, m.hasProgram (Path.join d name) = false := by
  rw [findProgram?, List.find?_map, Option.map_eq_some_iff] at h
  obtain ⟨directory, hfind, hjoin⟩ := h
  obtain ⟨hhas, before, after, hsplit, hbefore⟩ := List.find?_eq_some_iff_append.mp hfind
  refine ⟨hjoin ▸ hhas, before, directory, after, hsplit, hjoin, fun d hd => ?_⟩
  simpa using hbefore d hd

theorem findProgram?_none :
    m.findProgram? name given? = none ↔
      ∀ directory ∈ searchDirectories (m.searchPath given?),
        m.hasProgram (Path.join directory name) = false := by
  simp [findProgram?]

theorem found_bare (h : m.findProgram? name given? = some file) (hslash : '/' ∉ file.toList) :
    file = name ∧ ∃ before after,
      searchDirectories (m.searchPath given?) = before ++ "" :: after ∧
        ∀ d ∈ before, m.hasProgram (Path.join d name) = false := by
  obtain ⟨-, before, directory, after, hsplit, hjoin, hbefore⟩ := findProgram?_some h
  have hempty : directory = "" :=
    Decidable.byContradiction fun hne => hslash (hjoin ▸ slash_mem_join hne name)
  subst hempty
  rw [join_empty] at hjoin
  exact ⟨hjoin.symm, before, after, hsplit, hbefore⟩

/-! ## Executing -/

theorem imageUnless_error {d : Disk} {cwd : Ino} {path : String} {e : Errno}
    (h : d.runnableAt cwd path = .error e) (error? : Option Errno) (known : Bytes → Bool) :
    d.imageUnless error? known cwd path = .error e := by
  simp only [Disk.imageUnless, Disk.imageAt, h]

theorem imageUnless_none (d : Disk) (known : Bytes → Bool) (cwd : Ino) (path : String) :
    d.imageUnless none known cwd path = d.imageAt known cwd scriptLimit path := by
  unfold Disk.imageUnless
  cases d.runnableAt cwd path <;> rfl

theorem startError?_none_iff {argv : List String} :
    m.startError? argv = none ↔
      (∀ arg ∈ argv, arg.utf8ByteSize < 131072) ∧ m.startError = none := by
  have hlong : argumentError? argv = none ↔ ∀ arg ∈ argv, arg.utf8ByteSize < 131072 := by
    simp [argumentError?, argumentLimit, Nat.lt_succ_iff]
  rw [startError?, ← hlong]
  cases argumentError? argv <;> simp

theorem execute_unless {argv : List String} {path : String} {content : Bytes} {e : Errno}
    (hrun : m.disk.runnableAt m.cwd path = .ok content) (he : m.startError? argv = some e) :
    m.execute path argv = .error e := by
  simp only [execute, Disk.imageUnless, hrun, he]

theorem execute_absent (hp : Disk.isPathText path = true) (h : m.hasProgram path = false)
    (argv : List String) : ∃ e, m.execute path argv = .error e := by
  unfold hasProgram Disk.hasNode Disk.hasDirectory at h
  suffices hrun : ∃ e, m.disk.runnableAt m.cwd path = .error e by
    obtain ⟨e, he⟩ := hrun
    exact ⟨e, by rw [execute, imageUnless_error he]⟩
  unfold Disk.runnableAt
  cases hl : m.disk.locate m.cwd path with
  | error e => exact ⟨e, rfl⟩
  | ok i =>
    simp only [hp, hl, Disk.isDirectory] at h
    cases hn : m.disk.node? i with
    | none =>
      rw [hn] at h
      cases h
    | some n =>
      rw [hn] at h
      cases n with
      | directory parent entries => exact ⟨.accessDenied, by simp [hn]⟩
      | _ => cases h

theorem imageAt_locate {d : Disk} {cwd : Ino} {path path' : String} (known : Bytes → Bool)
    (depth : Nat) (h : d.locate cwd path = d.locate cwd path') :
    (d.imageAt known cwd depth path).map Prod.fst =
      (d.imageAt known cwd depth path').map Prod.fst := by
  unfold Disk.imageAt Disk.runnableAt
  rw [h]
  split
  · rfl
  · next content _ =>
    cases depth with
    | zero => rfl
    | succ depth =>
      simp only
      split
      · rfl
      · cases interpreterOf? content with
        | none => rfl
        | some interpreter =>
          simp only
          cases d.imageAt known cwd depth interpreter.1 <;> rfl

theorem imageUnless_locate {d : Disk} {cwd : Ino} {path path' : String} (error? : Option Errno)
    (known : Bytes → Bool) (h : d.locate cwd path = d.locate cwd path') :
    (d.imageUnless error? known cwd path).map Prod.fst =
      (d.imageUnless error? known cwd path').map Prod.fst := by
  have hrun : d.runnableAt cwd path = d.runnableAt cwd path' := by
    rw [Disk.runnableAt, Disk.runnableAt, h]
  unfold Disk.imageUnless
  rw [hrun]
  split
  · rfl
  · exact imageAt_locate known scriptLimit h

theorem execute_isOk (m : Machine) (path : String) (argv : List String) :
    (m.execute path argv).isOk =
      match (m.disk.imageUnless (m.startError? argv) (m.programs · |>.isSome) m.cwd path).map
        Prod.fst with
      | .error _ => false
      | .ok image => (m.programs image).isSome := by
  unfold execute
  cases m.disk.imageUnless (m.startError? argv) (m.programs · |>.isSome) m.cwd path with
  | error e => rfl
  | ok image =>
    simp only [Except.map]
    cases m.programs image.1 <;> rfl

theorem execute_sameFile {path' : String} (h : m.disk.sameFile m.cwd path m.cwd path' = true)
    (argv : List String) : (m.execute path argv).isOk = (m.execute path' argv).isOk := by
  obtain ⟨p, hp, hp'⟩ := Disk.sameFile_iff.mp h
  have hl : m.disk.locate m.cwd path = m.disk.locate m.cwd path' := by
    rw [Disk.locate, Disk.locate, hp, hp']
  rw [execute_isOk, execute_isOk, imageUnless_locate _ _ hl]

theorem execute_place {finished : Finished} (h : m.execute path argv = .ok finished) :
    m.disk.sameFile m.cwd path m.cwd path = true := by
  rw [Disk.sameFile_iff]
  cases hp : m.disk.place .use m.cwd path with
  | error e =>
    have hrun : m.disk.runnableAt m.cwd path = .error e := by
      rw [Disk.runnableAt, Disk.locate, hp]
    rw [execute, imageUnless_error hrun] at h
    cases h
  | ok p => exact ⟨p, rfl, rfl⟩

/-! ## Starting -/

theorem startFirst_ok {paths : List String} {last : Errno} {saved? : Option Errno}
    {finished : Finished} (h : m.startFirst argv last saved? paths = .ok (path, finished)) :
    m.execute path argv = .ok finished ∧
      paths.find? (fun p => (m.execute p argv).isOk) = some path := by
  induction paths generalizing last saved? with
  | nil => cases h
  | cons first rest ih =>
    unfold startFirst at h
    cases hrun : m.execute first argv with
    | ok done =>
      rw [hrun] at h
      cases h
      exact ⟨hrun, by simp [hrun, Except.isOk, Except.toBool]⟩
    | error e =>
      rw [hrun] at h
      obtain ⟨hpath, hfind⟩ := ih h
      refine ⟨hpath, ?_⟩
      rw [List.find?_cons_of_neg (by simp [hrun, Except.isOk, Except.toBool]), hfind]

theorem start_ok {finished : Finished} (h : m.start file argv = .ok (path, finished)) :
    (∀ arg ∈ argv, Disk.isPathText arg = true) ∧ m.execute path argv = .ok finished ∧
      (m.startPaths file).find? (fun p => (m.execute p argv).isOk) = some path := by
  unfold start at h
  split at h
  · cases h
  · next hargs =>
    cases hfirst : m.startFirst argv .noEntry none (m.startPaths file) with
    | error e => simp [hfirst] at h
    | ok started =>
      simp only [hfirst, Except.ok.injEq] at h
      subst h
      exact ⟨by simpa using hargs, startFirst_ok hfirst⟩

theorem start_congr {m' : Machine} (hrun : ∀ path, m'.execute path argv = m.execute path argv)
    (hpaths : m'.startPaths file = m.startPaths file) : m'.start file argv = m.start file argv := by
  have hfirst (paths : List String) (last : Errno) (saved? : Option Errno) :
      m'.startFirst argv last saved? paths = m.startFirst argv last saved? paths := by
    induction paths generalizing last saved? with
    | nil => rfl
    | cons first rest ih => simp only [startFirst, hrun, ih]
  rw [start, start, hpaths, hfirst]

theorem start_note (m : Machine) (e : Event) (file : String) (argv : List String) :
    (m.note e).start file argv = m.start file argv :=
  start_congr (fun _ => rfl) rfl

theorem startPaths_slash (h : '/' ∈ file.toList) : m.startPaths file = [file] := by
  simp [startPaths, h]

theorem startPaths_bare (h : '/' ∉ file.toList) :
    m.startPaths file =
      (separate ':' (m.environment.getD "PATH" "/bin:/usr/bin")).map (Path.join · file) := by
  simp [startPaths, h]

theorem searchDirectories_own {directory : String}
    (h : directory ∈ searchDirectories (m.searchPath none)) :
    searchDirectories (m.searchPath none) =
      separate ':' (m.environment.getD "PATH" "/bin:/usr/bin") := by
  unfold searchDirectories searchPath Environment.getD at h ⊢
  cases hpath : m.environment.get? "PATH" with
  | none => simp [hpath] at h
  | some path =>
    simp only [hpath, Option.getD_none, Option.getD_some] at h ⊢
    split at h
    · cases h
    · next hne => rw [if_neg hne]

theorem start_bare (htext : Disk.isPathText (m.environment.getD "PATH" "") = true)
    (hname : Disk.isPathText name = true) (hf : m.findProgram? name none = some file)
    (hslash : '/' ∉ file.toList) (hrun : (m.execute file argv).isOk = true) :
    (m.startPaths file).find? (fun p => (m.execute p argv).isOk) = some file := by
  obtain ⟨rfl, before, after, hsplit, hbefore⟩ := found_bare hf hslash
  have hpath : m.environment.getD "PATH" "" = m.searchPath none := rfl
  have hmem : "" ∈ searchDirectories (m.searchPath none) := by simp [hsplit]
  rw [startPaths_bare hslash, ← searchDirectories_own hmem, hsplit, List.map_append,
    List.map_cons, join_empty]
  rw [List.find?_eq_some_iff_append]
  refine ⟨hrun, before.map (Path.join · file), after.map (Path.join · file), rfl, ?_⟩
  intro p hp
  obtain ⟨d, hd, rfl⟩ := List.mem_map.mp hp
  have hdtext : Disk.isPathText d = true := by
    have hd' : d ∈ searchDirectories (m.searchPath none) := by simp [hsplit, hd]
    unfold searchDirectories at hd'
    split at hd'
    · cases hd'
    · exact isPathText_separate htext hd'
  obtain ⟨e, he⟩ := execute_absent (isPathText_join hdtext hname) (hbefore d hd) argv
  simp [he, Except.isOk, Except.toBool]

/-! ## What runs and what was found -/

section Started

variable {args : List String} {finished : Finished}

theorem start_slash (hs : m.start file argv = .ok (path, finished)) (hslash : '/' ∈ file.toList) :
    path = file := by
  obtain ⟨-, -, hfind⟩ := start_ok hs
  have hmem := List.mem_of_find?_eq_some hfind
  rw [startPaths_slash hslash, List.mem_singleton] at hmem
  exact hmem

theorem start_sameFile (htext : Disk.isPathText (m.environment.getD "PATH" "") = true)
    (hf : m.findProgram? name none = some file)
    (hs : m.start file (name :: args) = .ok (path, finished)) :
    m.disk.sameFile m.cwd path m.cwd file = true ↔
      (m.execute file (name :: args)).isOk = true := by
  obtain ⟨hargs, hrun, hfind⟩ := start_ok hs
  have hok : (m.execute path (name :: args)).isOk = true := by
    rw [hrun]
    rfl
  constructor
  · intro hsame
    rw [← execute_sameFile hsame, hok]
  · intro hfile
    have hpath : path = file := by
      by_cases hslash : '/' ∈ file.toList
      · exact start_slash hs hslash
      · have hname := hargs name List.mem_cons_self
        have hbare := start_bare htext hname hf hslash hfile
        rw [hbare] at hfind
        exact (Option.some.inj hfind).symm
    subst hpath
    exact execute_place hrun

theorem type_found (hl : m.lookUp name none = (some file, m₁)) (hne : name ≠ "")
    (hn : name ∉ Builtin.names) {e : Errand} (he : e.argText = name) (out err : Sink) :
    Builtin.type e ⟨m, out, err⟩ =
      (do Act.write .out s!"{name} is {file}\n"; return 0 : Act Int) ⟨m₁, out, err⟩ := by
  rw [Builtin.type_does, Builtin.typeDeed, he]
  simp only [String.isEmpty_iff, hne, List.contains_eq_mem, hn, hl]
  exact Deed.tells_act _ _ _ _ _

end Started

/-- The program that runs is the first of the paths under which its file is started that can be
executed. That is the path that was found when there is a slash in it. A path without one is the
bare name, found in an empty directory: it is searched for again, in the directories of the
environment, and what runs is the file that was found, and that `type` tells, only when this can be
executed. -/
theorem start_resolved {args : List String} {finished : Finished}
    (hl : m.lookUp name given? = (some file, m₁))
    (hs : m₁.start file (name :: args) = .ok (path, finished)) :
    m.execute path (name :: args) = .ok finished ∧
      (m.startPaths file).find? (fun p => (m.execute p (name :: args)).isOk) = some path ∧
      ('/' ∈ file.toList → path = file) ∧
      ('/' ∉ file.toList → file = name ∧ "" ∈ searchDirectories (m.searchPath given?)) ∧
      (given? = none →
        (Disk.isPathText (m.environment.getD "PATH" "") = true →
          (m.disk.sameFile m.cwd path m.cwd file = true ↔
            (m.execute file (name :: args)).isOk = true)) ∧
        (name ≠ "" → name ∉ Builtin.names → ∀ e : Errand, e.argText = name → ∀ out err,
          Builtin.type e ⟨m, out, err⟩ =
            (do Act.write .out s!"{name} is {file}\n"; return 0 : Act Int) ⟨m₁, out, err⟩)) := by
  obtain ⟨hf, rfl⟩ := lookUp_some hl
  rw [start_note] at hs
  obtain ⟨-, hrun, hfind⟩ := start_ok hs
  refine ⟨hrun, hfind, start_slash hs, ?_, ?_⟩
  · intro hslash
    obtain ⟨hname, before, after, hsplit, -⟩ := found_bare hf hslash
    exact ⟨hname, by simp [hsplit]⟩
  · rintro rfl
    refine ⟨fun htext => start_sameFile htext hf hs, fun hne hn e he out err => ?_⟩
    exact type_found hl hne hn he out err

def twoProgs : Machine where
  disk := ⟨#[
    .directory Disk.root [("prog", 1), ("bin", 2)],
    .regular [] 0o644,
    .directory Disk.root [("prog", 3)],
    .regular [] 0o755]⟩
  environment := ⟨[("PATH", ":/bin")]⟩
  programs := fun _ => some fun _ disk => ⟨0, [], [], disk⟩

theorem start_resolved_twoProgs :
    twoProgs.lookUp "prog" none = (some "prog", twoProgs.note (.resolved "prog" "prog")) ∧
      (twoProgs.note (.resolved "prog" "prog")).start "prog" ["prog"] =
        .ok ("/bin/prog", ⟨0, [], [], twoProgs.disk⟩) ∧
      (twoProgs.execute "prog" ["prog"]).isOk = false ∧
      twoProgs.disk.sameFile twoProgs.cwd "/bin/prog" twoProgs.cwd "prog" = false := by
  have hl : twoProgs.lookUp "prog" none =
      (some "prog", twoProgs.note (.resolved "prog" "prog")) := rfl
  have hs : (twoProgs.note (.resolved "prog" "prog")).start "prog" ["prog"] =
      .ok ("/bin/prog", ⟨0, [], [], twoProgs.disk⟩) := rfl
  have hrun : (twoProgs.execute "prog" ["prog"]).isOk = false := rfl
  obtain ⟨-, -, -, -, hown⟩ := start_resolved hl hs
  have hsame := (hown rfl).1 (by decide)
  rw [hrun] at hsame
  exact ⟨hl, hs, hrun, by simpa using hsame⟩

end Machine

end CommandShell
