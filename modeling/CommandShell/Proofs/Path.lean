import CommandShell.Directory
import CommandShell.Proofs.Text.Separated
import Mathlib.Data.List.TakeWhile

/-!
# Paths that are resolved by their text alone

A relative path for `cd` is put behind the directory it is seen from, and the whole is simplified.
-/

namespace CommandShell
namespace Path

variable {path cwd name : String} {here names : List String}

/-! ## Names that lead further down -/

/-- A name that stands for itself, and neither for the directory it is looked up in nor for the one
above. -/
structure Proper (name : String) : Prop where
  notEmpty : name ≠ ""
  notHere : name ≠ "."
  notAbove : name ≠ ".."

/-- Where names lead to from a directory below the root, without a look at any disk. Both are given
by the names that lead there from the root, the last one first. -/
inductive Leads : List String → List String → List String → Prop
  | arrived {here : List String} : Leads here [] here
  | stays {here names there : List String} {name : String} (hname : name = "" ∨ name = ".")
      (rest : Leads here names there) : Leads here (name :: names) there
  /-- The root is above itself. -/
  | top {names there : List String} (rest : Leads [] names there) : Leads [] (".." :: names) there
  | up {last : String} {here names there : List String} (rest : Leads here names there) :
      Leads (last :: here) (".." :: names) there
  | down {here names there : List String} {name : String} (hname : Proper name)
      (rest : Leads (name :: here) names there) : Leads here (name :: names) there

namespace Leads

variable {there third : List String}

theorem trans {more : List String} (h : Leads here names there) (h' : Leads there more third) :
    Leads here (names ++ more) third := by
  induction h with
  | arrived => exact h'
  | stays hname _ ih => exact .stays hname (ih h')
  | top _ ih => exact .top (ih h')
  | up _ ih => exact .up (ih h')
  | down hname _ ih => exact .down hname (ih h')

theorem unique (h : Leads here names there) (h' : Leads here names third) : there = third := by
  induction h with
  | arrived =>
    cases h'
    rfl
  | stays hname _ ih =>
    cases h' with
    | stays _ rest => exact ih rest
    | top => simp at hname
    | up => simp at hname
    | down hproper => exact absurd hname (not_or.mpr ⟨hproper.notEmpty, hproper.notHere⟩)
  | top _ ih =>
    cases h' with
    | stays hname => simp at hname
    | top rest => exact ih rest
    | down hproper => exact absurd rfl hproper.notAbove
  | up _ ih =>
    cases h' with
    | stays hname => simp at hname
    | up rest => exact ih rest
    | down hproper => exact absurd rfl hproper.notAbove
  | down hproper _ ih =>
    cases h' with
    | stays hname => exact absurd hname (not_or.mpr ⟨hproper.notEmpty, hproper.notHere⟩)
    | top => exact absurd rfl hproper.notAbove
    | up => exact absurd rfl hproper.notAbove
    | down _ rest => exact ih rest

theorem down_all (here : List String) (h : ∀ name ∈ names, Proper name) :
    Leads here names (names.reverse ++ here) := by
  induction names generalizing here with
  | nil => exact .arrived
  | cons name names ih =>
    have hrest : Leads (name :: here) names (names.reverse ++ name :: here) :=
      ih _ fun n hn => h n (List.mem_cons_of_mem _ hn)
    simpa using Leads.down (h name List.mem_cons_self) hrest

theorem keeps {P : String → Prop} (h : Leads here names there) (hhere : ∀ name ∈ here, P name)
    (hnames : ∀ name ∈ names, Proper name → P name) : ∀ name ∈ there, P name := by
  induction h with
  | arrived => exact hhere
  | stays _ _ ih => exact ih hhere fun n hn => hnames n (List.mem_cons_of_mem _ hn)
  | top _ ih => exact ih hhere fun n hn => hnames n (List.mem_cons_of_mem _ hn)
  | up _ ih =>
    exact ih (fun n hn => hhere n (List.mem_cons_of_mem _ hn))
      fun n hn => hnames n (List.mem_cons_of_mem _ hn)
  | down hname _ ih =>
    refine ih ?_ fun n hn => hnames n (List.mem_cons_of_mem _ hn)
    intro n hn
    rcases List.mem_cons.mp hn with rfl | hn
    · exact hnames n List.mem_cons_self hname
    · exact hhere n hn

end Leads

/-! ## What is kept of a path from the root -/

/-- Simplifying a path from the root keeps where its names lead to. -/
theorem leads_foldl (names : List String) (hhere : ∀ name ∈ here, Proper name) :
    Leads here names (names.foldl (simplifyStep true) here) := by
  induction names generalizing here with
  | nil => exact .arrived
  | cons name names ih =>
    rw [List.foldl_cons]
    by_cases hstay : name = "" ∨ name = "."
    · rw [show simplifyStep true here name = here by simp [simplifyStep, hstay]]
      exact .stays hstay (ih hhere)
    · obtain ⟨hne, hdot⟩ := not_or.mp hstay
      by_cases hup : name = ".."
      · subst hup
        cases here with
        | nil =>
          exact .top (ih hhere)
        | cons last here =>
          have hlast := (hhere last List.mem_cons_self).notAbove
          rw [show simplifyStep true (last :: here) ".." = here by simp [simplifyStep, hlast]]
          exact .up (ih fun n hn => hhere n (List.mem_cons_of_mem _ hn))
      · have hname : Proper name := ⟨hne, hdot, hup⟩
        rw [show simplifyStep true here name = name :: here by simp [simplifyStep, hstay, hup]]
        refine .down hname (ih ?_)
        intro n hn
        rcases List.mem_cons.mp hn with rfl | hn
        · exact hname
        · exact hhere n hn

/-! ## Slashes in front -/

def slashes (path : String) : Nat := (path.toList.takeWhile (· = '/')).length

/-- The slashes in front of a simplified path that is seen from a directory: two slashes stay
two. -/
def rootOf (cwd : String) : String := if slashes cwd = 2 then "//" else "/"

theorem isAbsolute_iff : isAbsolute path = true ↔ 0 < slashes path := by
  unfold isAbsolute slashes
  cases path.toList with
  | nil => simp
  | cons c cs => by_cases hc : c = '/' <;> simp [hc]

theorem takeWhile_slash {cs : List Char} (h : ∀ rest, cs = '/' :: rest → False) :
    cs.takeWhile (· = '/') = [] := by
  cases cs with
  | nil => rfl
  | cons c cs =>
    have hc : c ≠ '/' := fun hc => h cs (hc ▸ rfl)
    simp [hc]

theorem leadingSlashes_eq (path : String) :
    leadingSlashes path = if slashes path = 2 then 2 else min 1 (slashes path) := by
  unfold leadingSlashes slashes
  split
  · next h => simp [h]
  · next hthree h => simp [h, takeWhile_slash hthree]
  · next htwo h => simp [h, takeWhile_slash htwo]
  · next hone => simp [takeWhile_slash hone]

theorem replicate_leadingSlashes (h : isAbsolute path = true) :
    String.ofList (List.replicate (leadingSlashes path) '/') = rootOf path := by
  have hpos := isAbsolute_iff.mp h
  rw [leadingSlashes_eq, rootOf]
  split
  · rfl
  · rw [Nat.min_eq_left hpos]
    rfl

theorem slashes_append {rest : String}
    (h : rest.toList.head? ≠ some '/' ∨ path ≠ "" ∧ path.toList.getLast? ≠ some '/') :
    slashes (path ++ rest) = slashes path := by
  unfold slashes
  rw [String.toList_append, List.takeWhile_append]
  split
  · next hall =>
    rcases h with hrest | ⟨hne, hlast⟩
    · rw [takeWhile_slash (fun tail ht => hrest (by rw [ht]; rfl)), List.append_nil, hall]
    · have hself : path.toList.takeWhile (· = '/') = path.toList :=
        (List.takeWhile_prefix _).eq_of_length hall
      have hnil : path.toList ≠ [] := by simpa using hne
      have hslash := List.takeWhile_eq_self_iff.mp hself _ (List.getLast_mem hnil)
      refine absurd ?_ hlast
      simpa [List.getLast?_eq_some_getLast hnil] using hslash
  · rfl

/-! ## A path put behind a directory -/

theorem components_append (path rest : String) :
    components (path ++ "/" ++ rest) = components path ++ components rest :=
  separate_append path rest

theorem components_mem (h : name ∈ components path) : '/' ∉ name.toList := by
  obtain ⟨piece, hp, rfl⟩ := List.mem_map.mp h
  intro hc
  exact (separateChars_mem hp (by simpa using hc)).2 rfl

theorem slashes_join (hcwd : isAbsolute cwd = true) (hpath : isAbsolute path = false) :
    slashes (join cwd path) = slashes cwd := by
  have hne : cwd ≠ "" := by
    rintro rfl
    cases hcwd
  have hhead : path.toList.head? ≠ some '/' := by simpa [isAbsolute] using hpath
  unfold join
  rw [hpath]
  by_cases hend : cwd.toList.getLast? = some '/'
  · simp [hend, slashes_append (.inl hhead)]
  · rw [if_neg (by simp), if_neg (by simp [hne, hend]), String.append_assoc,
      slashes_append (.inr ⟨hne, hend⟩)]

theorem isAbsolute_join (hcwd : isAbsolute cwd = true) (hpath : isAbsolute path = false) :
    isAbsolute (join cwd path) = true := by
  rw [isAbsolute_iff, slashes_join hcwd hpath]
  exact isAbsolute_iff.mp hcwd

theorem leads_join (hcwd : isAbsolute cwd = true) (hpath : isAbsolute path = false) :
    Leads [] (components cwd ++ components path)
      ((components (join cwd path)).foldl (simplifyStep true) []) := by
  have hne : cwd ≠ "" := by
    rintro rfl
    cases hcwd
  suffices hsame : (components (join cwd path)).foldl (simplifyStep true) [] =
      (components cwd ++ components path).foldl (simplifyStep true) [] by
    rw [hsame]
    exact leads_foldl _ (by simp)
  unfold join
  rw [hpath]
  by_cases hend : cwd.toList.getLast? = some '/'
  · obtain ⟨front, rfl⟩ : ∃ front : String, cwd = front ++ "/" := by
      obtain ⟨cs, hcs⟩ := List.getLast?_eq_some_iff.mp hend
      exact ⟨String.ofList cs, by rw [← String.toList_inj]; simpa using hcs⟩
    have hempty : components (front ++ "/") = components front ++ [""] := by
      simpa [components, separate_empty] using components_append front ""
    simp [hempty, components_append, simplifyStep]
  · rw [if_neg (by simp), if_neg (by simp [hne, hend]), components_append]

theorem simplify_rooted (h : isAbsolute path = true) :
    simplify path = rootOf path ++
      "/".intercalate ((components path).foldl (simplifyStep true) []).reverse := by
  have hpos : 0 < leadingSlashes path := by
    have hslashes := isAbsolute_iff.mp h
    rw [leadingSlashes_eq]
    split <;> omega
  have hroot : rootOf path ≠ "" := by
    unfold rootOf
    split <;> simp
  simp [simplify, hpos, replicate_leadingSlashes h, hroot]

/-! ## Paths that say no more than they have to -/

/-- A path from the root is made of proper names, with one slash between any two of them. -/
structure Canonical (root : String) (names : List String) (path : String) : Prop where
  text : path = root ++ "/".intercalate names
  proper : ∀ name ∈ names, Proper name ∧ '/' ∉ name.toList

namespace Canonical

theorem head?_intercalate (h : ∀ name ∈ names, Proper name ∧ '/' ∉ name.toList) :
    ("/".intercalate names).toList.head? ≠ some '/' := by
  cases names with
  | nil => simp
  | cons name names =>
    obtain ⟨hproper, hplain⟩ := h name List.mem_cons_self
    have hne : name.toList ≠ [] := by simpa using hproper.notEmpty
    obtain ⟨c, cs, hcs⟩ := List.exists_cons_of_ne_nil hne
    have hc : c ≠ '/' := by
      rintro rfl
      exact hplain (hcs ▸ List.mem_cons_self)
    cases names <;> simp [hcs, hc]

theorem slashes_eq (h : Canonical (rootOf cwd) names path) :
    slashes path = slashes (rootOf cwd) := by
  rw [h.text, slashes_append (.inl (head?_intercalate h.proper))]

theorem rootOf_eq (h : Canonical (rootOf cwd) names path) : rootOf path = rootOf cwd := by
  rw [rootOf, h.slashes_eq, rootOf]
  split <;> rfl

theorem isAbsolute (h : Canonical (rootOf cwd) names path) : isAbsolute path = true := by
  rw [isAbsolute_iff, h.slashes_eq, rootOf]
  split <;> decide

theorem leads (h : Canonical (rootOf cwd) names path) :
    Leads [] (components path) names.reverse := by
  have hnames : Leads [] (components ("/".intercalate names)) names.reverse := by
    by_cases hne : names = []
    · subst hne
      exact .stays (.inl rfl) .arrived
    · rw [show components ("/".intercalate names) = names from
        separate_intercalate hne fun name hn => (h.proper name hn).2]
      simpa using Leads.down_all [] fun name hn => (h.proper name hn).1
  rw [h.text, rootOf]
  split
  · rw [show components ("//" ++ "/".intercalate names) =
      ["", ""] ++ components ("/".intercalate names) from components_append "/" _]
    exact .stays (.inl rfl) (.stays (.inl rfl) hnames)
  · rw [show components ("/" ++ "/".intercalate names) =
      [""] ++ components ("/".intercalate names) from components_append "" _]
    exact .stays (.inl rfl) hnames

end Canonical

theorem rootOf_join (hcwd : isAbsolute cwd = true) (hpath : isAbsolute path = false) :
    rootOf (join cwd path) = rootOf cwd := by
  rw [rootOf, slashes_join hcwd hpath, rootOf]

theorem canonical_simplify (hcwd : isAbsolute cwd = true) (hpath : isAbsolute path = false) :
    ∃ names, Canonical (rootOf cwd) names (simplify (join cwd path)) ∧
      Leads [] (components cwd ++ components path) names.reverse := by
  have hleads := leads_join hcwd hpath
  have hfree : ∀ name ∈ components cwd ++ components path, '/' ∉ name.toList := by
    intro name hn
    exact (List.mem_append.mp hn).elim components_mem components_mem
  refine ⟨((components (join cwd path)).foldl (simplifyStep true) []).reverse, ⟨?_, ?_⟩, ?_⟩
  · rw [simplify_rooted (isAbsolute_join hcwd hpath), rootOf_join hcwd hpath]
  · intro name hn
    exact hleads.keeps (P := fun name => Proper name ∧ '/' ∉ name.toList) (by simp)
      (fun n hn hproper => ⟨hproper, hfree n hn⟩) name (List.mem_reverse.mp hn)
  · rwa [List.reverse_reverse]

theorem simplify_stop {a b : String} (hcwd : isAbsolute cwd = true) (ha : isAbsolute a = false)
    (hb : isAbsolute b = false) (hab : isAbsolute (a ++ "/" ++ b) = false) :
    simplify (join (simplify (join cwd a)) b) = simplify (join cwd (a ++ "/" ++ b)) := by
  obtain ⟨stop, hstop, hto⟩ := canonical_simplify hcwd ha
  obtain ⟨whole, hwhole, hgone⟩ := canonical_simplify hcwd hab
  obtain ⟨rest, hrest, hon⟩ := canonical_simplify hstop.isAbsolute hb
  have hbelow : ∀ name ∈ stop.reverse, Proper name := fun name hn =>
    (hstop.proper name (List.mem_reverse.mp hn)).1
  have hfrom := leads_foldl (components b) hbelow
  have hsame : rest.reverse = whole.reverse := by
    rw [components_append, ← List.append_assoc] at hgone
    exact (hon.unique (hstop.leads.trans hfrom)).trans ((hto.trans hfrom).unique hgone)
  rw [hrest.text, hwhole.text, hstop.rootOf_eq, List.reverse_inj.mp hsame]

end Path

namespace Machine

open CommandShell.Path

variable {m : Machine} {cwd path : String}

theorem resolve_relative (hcwd : isAbsolute cwd = true) (hpath : isAbsolute path = false)
    (hhome : path ≠ "~") : m.resolve path (some cwd) = .ok (simplify (join cwd path)) := by
  have hne : cwd ≠ "" := by
    rintro rfl
    cases hcwd
  simp [resolve, hpath, hhome, hne]

theorem resolve_here {path : String} (h : m.cwdPath = .ok cwd) (hcwd : cwd ≠ "") :
    m.resolve path none = m.resolve path (some cwd) := by
  simp [resolve, resolve.here, h, hcwd]

/-- From an absolute directory a relative path leads where its names lead to one after the other,
whether it is resolved in one go or with a stop behind any slash, and the path of that place says no
more than it has to. -/
theorem resolve_composes (m : Machine) (hcwd : isAbsolute cwd = true) :
    (∀ a b, a ≠ "" → a ≠ "~" → b ≠ "~" → isAbsolute a = false → isAbsolute b = false →
      ∃ stop, m.resolve a (some cwd) = .ok stop ∧
        m.resolve (a ++ "/" ++ b) (some cwd) = m.resolve b (some stop)) ∧
    (∀ path, path ≠ "~" → isAbsolute path = false →
      ∃ there names, m.resolve path (some cwd) = .ok there ∧ isAbsolute there = true ∧
        Canonical (rootOf cwd) names there ∧
        Leads [] (components cwd ++ components path) names.reverse) ∧
    (m.cwdPath = .ok cwd → ∀ path, m.resolve path none = m.resolve path (some cwd)) := by
  refine ⟨?_, ?_, ?_⟩
  · intro a b hne hahome hbhome ha hb
    have hab : isAbsolute (a ++ "/" ++ b) = false := by
      obtain ⟨c, cs, hcs⟩ := List.exists_cons_of_ne_nil (l := a.toList) (by simpa using hne)
      simpa [isAbsolute, hcs] using ha
    have habhome : a ++ "/" ++ b ≠ "~" := by
      intro h
      have hslash : '/' ∈ "~".toList := h ▸ by simp
      cases hslash with
      | tail _ h => cases h
    obtain ⟨stop, hstop, -⟩ := canonical_simplify hcwd ha
    refine ⟨_, resolve_relative hcwd ha hahome, ?_⟩
    rw [resolve_relative hcwd hab habhome, resolve_relative hstop.isAbsolute hb hbhome,
      simplify_stop hcwd ha hb hab]
  · intro path hhome hpath
    obtain ⟨names, hcanonical, hleads⟩ := canonical_simplify hcwd hpath
    exact ⟨_, names, resolve_relative hcwd hpath hhome, hcanonical.isAbsolute, hcanonical, hleads⟩
  · intro h path
    refine resolve_here h ?_
    rintro rfl
    cases hcwd

def emptyMachine : Machine where
  disk := .empty

theorem resolve_composes_doubled :
    isAbsolute "//x//y" = true ∧
      ∃ stop, emptyMachine.resolve "../b/." (some "//x//y") = .ok stop ∧ stop = "//x/b" ∧
        emptyMachine.resolve "../b/./../../../c/" (some "//x//y") =
          emptyMachine.resolve "../../../c/" (some stop) ∧
        emptyMachine.resolve "../../../c/" (some stop) = .ok "//c" := by
  have hcwd : isAbsolute "//x//y" = true := by decide
  have hgiven : emptyMachine.resolve "../b/." (some "//x//y") = .ok "//x/b" := rfl
  obtain ⟨hstops, -, -⟩ := resolve_composes emptyMachine hcwd
  obtain ⟨stop, hstop, hsame⟩ := hstops "../b/." "../../../c/" (by decide) (by decide) (by decide)
    (by decide) (by decide)
  cases hgiven.symm.trans hstop
  exact ⟨hcwd, _, hstop, rfl, hsame, rfl⟩

end Machine

end CommandShell
