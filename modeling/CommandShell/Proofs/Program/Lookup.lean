import CommandShell.Proofs.Program.Search
import CommandShell.Proofs.Text.Separated
import Mathlib.Logic.ExistsUnique

/-!
# The first program on a search path

A search path spells a row of directories, and a name is looked up in them one after the other. The
first one that has something other than a directory under the name decides. A search on two paths
put together is the search on the first and, when it finds nothing, on the second. That is so when
neither is empty: a path without a text spells no directory, but an empty piece of a longer one is
where the shell works.
-/

namespace CommandShell

/-! ## Search paths -/

/-- The path is the text of the directories, with a colon between each two. -/
structure Spells (path : String) (directories : List String) : Prop where
  ne_nil : directories ≠ []
  plain : ∀ directory ∈ directories, ':' ∉ directory.toList
  text : ":".intercalate directories = path

theorem spells_iff {path : String} {directories : List String} :
    Spells path directories ↔ directories = separate ':' path := by
  constructor
  · rintro ⟨hne, hplain, rfl⟩
    exact (separate_intercalate hne hplain).symm
  · rintro rfl
    exact ⟨separate_ne_nil _ _, fun _ hd => separator_not_mem hd, intercalate_separate ':' path⟩

theorem spells_unique (path : String) : ∃! directories, Spells path directories :=
  ⟨separate ':' path, spells_iff.mpr rfl, fun _ h => spells_iff.mp h⟩

theorem searchDirectories_empty : searchDirectories "" = [] := rfl

theorem Spells.searchDirectories {path : String} {directories : List String}
    (h : Spells path directories) (hne : path ≠ "") : searchDirectories path = directories := by
  simp [CommandShell.searchDirectories, hne, spells_iff.mp h]

theorem searchDirectories_append {path rest : String} (hpath : path ≠ "") (hrest : rest ≠ "") :
    searchDirectories (path ++ ":" ++ rest) =
      searchDirectories path ++ searchDirectories rest := by
  have hboth : path ++ ":" ++ rest ≠ "" := by simp [hpath]
  simp only [searchDirectories, String.isEmpty_iff, hpath, hrest, hboth, if_false]
  exact separate_append path rest

theorem join_absolute {name : String} (h : Path.isAbsolute name = true) (directory : String) :
    Path.join directory name = name := by
  rw [Path.join, if_pos h]

namespace Machine

variable {m : Machine} {name file path : String} {given? : Option String}
  {directories : List String}

/-! ## What is found -/

/-- There is something at the path, links followed, and it is no directory. -/
def Offers (m : Machine) (path : String) : Prop :=
  '\x00' ∉ path.toList ∧ ∃ i, m.disk.locate m.cwd path = .ok i ∧ m.disk.isDirectory i = false

theorem hasProgram_iff : m.hasProgram path = true ↔ m.Offers path := by
  unfold hasProgram Disk.hasNode Disk.hasDirectory Offers
  cases hl : m.disk.locate m.cwd path with
  | error e => simp [Except.isOk, Except.toBool]
  | ok i =>
    simp only [Except.isOk, Except.toBool, Disk.isPathText, Except.ok.injEq, exists_eq_left']
    by_cases hc : '\x00' ∈ path.toList <;> simp [hc]

/-- The file is what a name stands for in the first directory that offers something under it. -/
def FirstOffer (m : Machine) (directories : List String) (name file : String) : Prop :=
  ∃ before directory after, directories = before ++ directory :: after ∧
    file = Path.join directory name ∧ m.Offers file ∧
    ∀ d ∈ before, ¬ m.Offers (Path.join d name)

theorem findProgram?_some_iff :
    m.findProgram? name given? = some file ↔
      m.FirstOffer (searchDirectories (m.searchPath given?)) name file := by
  simp only [FirstOffer, ← hasProgram_iff, Bool.not_eq_true]
  constructor
  · intro h
    obtain ⟨hhas, before, directory, after, hsplit, rfl, hbefore⟩ := findProgram?_some h
    exact ⟨before, directory, after, hsplit, rfl, hhas, hbefore⟩
  · rintro ⟨before, directory, after, hsplit, rfl, hhas, hbefore⟩
    rw [findProgram?, hsplit, List.find?_eq_some_iff_append]
    refine ⟨hhas, before.map (Path.join · name), after.map (Path.join · name), by simp, ?_⟩
    simpa using hbefore

theorem findProgram?_append (hpath : path ≠ "") {rest : String} (hrest : rest ≠ "") :
    m.findProgram? name (some (path ++ ":" ++ rest)) =
      (m.findProgram? name (some path)).or (m.findProgram? name (some rest)) := by
  have hdirectories := searchDirectories_append hpath hrest
  simp only [findProgram?, searchPath, Option.getD_some, hdirectories, List.map_append,
    List.find?_append]

/-- What a name stands for on a search path, whichever way the path was come by. -/
theorem findProgram?_first (m : Machine) (name : String) :
    (∀ given? directories, Spells (m.searchPath given?) directories →
      (∀ file, m.findProgram? name given? = some file ↔
        m.searchPath given? ≠ "" ∧ m.FirstOffer directories name file) ∧
      (m.findProgram? name given? = none ↔
        m.searchPath given? = "" ∨ ∀ d ∈ directories, ¬ m.Offers (Path.join d name))) ∧
    (∀ path, ∃! directories, Spells path directories) ∧
    Path.join "" name = name ∧
    (Path.isAbsolute name = true → ∀ directory, Path.join directory name = name) ∧
    (∀ path rest, path ≠ "" → rest ≠ "" →
      m.findProgram? name (some (path ++ ":" ++ rest)) =
        (m.findProgram? name (some path)).or (m.findProgram? name (some rest))) ∧
    m.findProgram? name (some "") = none := by
  refine ⟨fun given? directories hspells => ?_, spells_unique, join_empty name, join_absolute,
    fun path rest hpath hrest => findProgram?_append hpath hrest, rfl⟩
  simp only [findProgram?_some_iff, findProgram?_none, ← Bool.not_eq_true, hasProgram_iff]
  by_cases hempty : m.searchPath given? = ""
  · simp [hempty, searchDirectories_empty, FirstOffer]
  · simp [hempty, hspells.searchDirectories hempty]

def threeTools : Machine where
  disk := ⟨#[
    .directory Disk.root [("a", 1), ("b", 2), ("c", 3)],
    .directory Disk.root [("tool", 4)],
    .directory Disk.root [("tool", 5)],
    .directory Disk.root [("tool", 6)],
    .directory 1 [],
    .link "/none",
    .regular [] 0o644]⟩
  environment := ⟨[("PATH", "/a:/b:/c")]⟩

theorem findProgram?_first_threeTools :
    threeTools.FirstOffer ["/a", "/b", "/c"] "tool" "/c/tool" ∧
      ¬ threeTools.Offers "/a/tool" ∧ ¬ threeTools.Offers "/b/tool" ∧
      threeTools.findProgram? "tool" (some "/a:/b:/c") =
        (threeTools.findProgram? "tool" (some "/a:/b")).or
          (threeTools.findProgram? "tool" (some "/c")) ∧
      Path.join "/b" "/c/tool" = "/c/tool" ∧
      threeTools.findProgram? "/c/tool" (some "") = none := by
  obtain ⟨hfirst, -, -, -, happend, -⟩ := findProgram?_first threeTools "tool"
  obtain ⟨-, -, -, habsolute, -, hempty⟩ := findProgram?_first threeTools "/c/tool"
  have hspells : Spells (threeTools.searchPath none) ["/a", "/b", "/c"] :=
    spells_iff.mpr (by decide +kernel)
  have hspells' : Spells (threeTools.searchPath (some "/a:/b")) ["/a", "/b"] :=
    spells_iff.mpr (by decide +kernel)
  have hfound : threeTools.findProgram? "tool" none = some "/c/tool" := by decide +kernel
  have hmissing : threeTools.findProgram? "tool" (some "/a:/b") = none := by decide +kernel
  have hnone := ((hfirst _ _ hspells').2.mp hmissing).resolve_left (by decide)
  exact ⟨(((hfirst _ _ hspells).1 _).mp hfound).2, hnone "/a" (by simp), hnone "/b" (by simp),
    happend "/a:/b" "/c" (by decide) (by decide), habsolute (by decide) "/b", hempty⟩

end Machine

end CommandShell
