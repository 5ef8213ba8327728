/-
Texts of paths as keys.

Functions and aliases are looked up by the texts of their paths.  This is as good as looking
them up by their segments, as long as these are names (`Names`): not empty, and without a colon.

* **`split_join_split`** — what is read from a text is read again from its joined text, whatever
  colons there are in it;
* **`join_inj`** — lists of names have different texts;
* **`mem_withPath_join`**, **`mem_withTail_join`**, **`get?_addAlias_join`** — hence each of the
  three indexes tells such lists apart: under a list of names there is only what was entered
  under that list.
-/
import Deadwood.Proofs.Aliases
import Deadwood.Proofs.Invariant

namespace Deadwood

namespace ModulePath

/-! ### Texts of lists of names -/

/-- Segments that are names: none is empty, and none holds a colon. -/
def Names (segments : List String) : Prop :=
  ∀ s ∈ segments, s ≠ "" ∧ ':' ∉ s.toList

instance (segments : List String) : Decidable (Names segments) :=
  inferInstanceAs (Decidable (∀ s ∈ segments, s ≠ "" ∧ ':' ∉ s.toList))

variable {segments others : List String}

theorem Names.of_subset (h : Names segments) (hsub : others ⊆ segments) : Names others :=
  fun s hs => h s (hsub hs)

theorem Names.split_join (h : Names segments) : split (join segments) = segments :=
  ModulePath.split_join (fun s hs => (h s hs).1) (separable_of_colonFree fun s hs => (h s hs).2)

theorem join_inj (h : Names segments) (hothers : Names others) : join segments = join others ↔ segments = others := by
  constructor
  · intro hjoin
    rw [← h.split_join, hjoin, hothers.split_join]
  · exact congrArg join

theorem split_join_split (path : String) : split (join (split path)) = split path :=
  ModulePath.split_join (fun _ => ne_empty_of_mem_split) (separable_split path)

theorem join_filter (segments : List String) : join (segments.filter (· != "")) = join segments := by
  rw [join, join, List.filter_filter]
  simp

theorem names_filter (h : ∀ s ∈ segments, ':' ∉ s.toList) : Names (segments.filter (· != "")) := by
  intro s hs
  obtain ⟨hmem, hne⟩ := List.mem_filter.mp hs
  exact ⟨bne_iff_ne.mp hne, h s hmem⟩

theorem filter_eq_of_join_eq (h : ∀ s ∈ segments, ':' ∉ s.toList) (hothers : ∀ s ∈ others, ':' ∉ s.toList)
    (hjoin : join segments = join others) : segments.filter (· != "") = others.filter (· != "") := by
  rw [← join_inj (names_filter h) (names_filter hothers), join_filter, join_filter, hjoin]

end ModulePath

namespace Catalog

open ModulePath (split join Names)

variable {catalog : Catalog} {s : Symbol} {own looked : List String}

/-! ### Indexes -/

theorem mem_withPath_join (hs : s ∈ catalog.symbols) (hpath : s.fullPath = join own) (hown : Names own)
    (hlooked : Names looked) : s.key ∈ catalog.withPath (join looked) ↔ looked = own := by
  rw [← ModulePath.join_inj hlooked hown, ← hpath, mem_withPath]
  constructor
  · rintro ⟨t, -, hkey, htext⟩
    have hsame : t.fullPath = s.fullPath := congrArg Key.path hkey
    rw [← htext, hsame]
  · intro htext
    exact ⟨s, hs, rfl, htext.symm⟩

theorem mem_withTail_join (hs : s ∈ catalog.symbols) (hpath : s.fullPath = join own) (hown : Names own)
    (hlooked : Names looked) :
    s.key ∈ catalog.withTail (join looked) ↔ looked.length = 2 ∧ looked <:+ own := by
  -- The last two segments are read from the text of the path, which gives the segments themselves.
  have htail : tail? s.fullPath = some (join looked) ↔ looked.length = 2 ∧ looked <:+ own := by
    rw [tail?_eq_some_iff, EndsIn, hpath, hown.split_join]
    constructor
    · rintro ⟨owner, name, hsuffix, hjoin⟩
      obtain rfl := (ModulePath.join_inj hlooked (hown.of_subset hsuffix.subset)).mp hjoin
      exact ⟨rfl, hsuffix⟩
    · rintro ⟨hlength, hsuffix⟩
      obtain ⟨owner, name, rfl⟩ := List.length_eq_two.mp hlength
      exact ⟨owner, name, hsuffix, rfl⟩
  rw [mem_withTail, ← htail]
  constructor
  · rintro ⟨t, -, hkey, htext⟩
    have hsame : t.fullPath = s.fullPath := congrArg Key.path hkey
    rw [← hsame, htext]
  · intro htext
    exact ⟨s, hs, rfl, htext⟩

theorem aliasPath_join {module : List String} {name : String} (h : Names (module ++ [name])) :
    Imports.aliasPath (join module, name) = join (module ++ [name]) := by
  have hmodule : Names module := h.of_subset (List.subset_append_left _ _)
  rw [Imports.aliasPath, hmodule.split_join]

/-- An import changes what is found under its own segments, and nothing else. -/
theorem get?_addAlias_join {module : List String} {name target : String} (h : Names (module ++ [name]))
    (hlooked : Names looked) : (catalog.addAlias (join module) name target).aliases.get? (join looked) =
      if looked = module ++ [name] ∧ join looked ≠ target then some target else catalog.aliases.get? (join looked) := by
  rw [aliases_addAlias, aliasPath_join h]
  by_cases hself : join (module ++ [name]) = target
  · have hnot : ¬ (looked = module ++ [name] ∧ join looked ≠ target) := by
      rintro ⟨rfl, hne⟩
      exact hne hself
    rw [if_pos hself, if_neg hnot]
  · rw [if_neg hself, OrderedMap.get?_insert]
    by_cases hsame : looked = module ++ [name]
    · rw [if_pos (congrArg join hsame), if_pos ⟨hsame, hsame ▸ hself⟩]
    · rw [if_neg fun hjoin => hsame ((ModulePath.join_inj hlooked h).mp hjoin), if_neg fun hboth => hsame hboth.1]

/-- Imports of names in modules whose segments are names. -/
def ByName (imports : Imports) : Prop :=
  ∀ place target, imports.Binds place target → ∃ module, place.1 = join module ∧ Names (module ++ [place.2])

/-- What is found in the end was imported under the same segments. -/
theorem binds_of_hasAlias_join {symbols : List Symbol} {imports : Imports} {target : String} (himports : ByName imports)
    (hlooked : Names looked) (h : (ofProject symbols imports).HasAlias (join looked) target) :
    ∃ module name, looked = module ++ [name] ∧ imports.Binds (join module, name) target := by
  obtain ⟨⟨⟨text, name⟩, hpath, hbinds⟩, -⟩ := (selects_aliases symbols imports).1 _ _ h
  obtain ⟨module, hmodule, hnames⟩ := himports _ _ hbinds
  obtain rfl : text = join module := hmodule
  rw [aliasPath_join hnames, ModulePath.join_inj hnames hlooked] at hpath
  exact ⟨module, name, hpath.symm, hbinds⟩

/-- **Texts of paths are as good as their segments.**  Splitting undoes joining for lists of names, and joining and
splitting again changes nothing of what was split from any text.  So lists without colons that have the same text differ
in empty segments only, and no index confuses two lists of names: under such a list are the functions that have it as
their path, or as the last two segments of it, and the aliases that were imported under it. -/
theorem paths_read_back :
    (∀ path, split (join (split path)) = split path) ∧
    (∀ segments, Names segments → split (join segments) = segments) ∧
    (∀ segments others : List String, (∀ s ∈ segments, ':' ∉ s.toList) → (∀ s ∈ others, ':' ∉ s.toList) →
      join segments = join others → segments.filter (· != "") = others.filter (· != "")) ∧
    (∀ (catalog : Catalog) (s : Symbol) (own looked : List String), s ∈ catalog.symbols → s.fullPath = join own →
      Names own → Names looked → (s.key ∈ catalog.withPath (join looked) ↔ looked = own) ∧
        (s.key ∈ catalog.withTail (join looked) ↔ looked.length = 2 ∧ looked <:+ own)) ∧
    (∀ (catalog : Catalog) (module : List String) (name target : String) (looked : List String),
      Names (module ++ [name]) → Names looked →
      (catalog.addAlias (join module) name target).aliases.get? (join looked) =
        if looked = module ++ [name] ∧ join looked ≠ target then some target
        else catalog.aliases.get? (join looked)) ∧
    ∀ symbols imports, ByName imports → ∀ looked target, Names looked →
      (ofProject symbols imports).aliases.get? (join looked) = some target →
      ∃ module name, looked = module ++ [name] ∧ imports.Binds (join module, name) target := by
  refine ⟨ModulePath.split_join_split, fun segments h => h.split_join,
    fun segments others => ModulePath.filter_eq_of_join_eq, ?_, ?_, ?_⟩
  · intro catalog s own looked hs hpath hown hlooked
    exact ⟨mem_withPath_join hs hpath hown hlooked, mem_withTail_join hs hpath hown hlooked⟩
  · intro catalog module name target looked hnames hlooked
    exact get?_addAlias_join hnames hlooked
  · intro symbols imports himports looked target hlooked halias
    exact binds_of_hasAlias_join himports hlooked halias

/-- A method in a module. -/
def keyedMethod : Symbol :=
  { name := "new", fullPath := "core::Engine::new", visibility := .everyone, file := "src/core.rs"
    span := ⟨1, 1, 1, 9⟩ }

/-- An import in that module. -/
def keyedImports : Imports :=
  ⟨[("core", ⟨[("run", "engine::run")]⟩)]⟩

theorem byName_keyedImports : ByName keyedImports := by
  rintro ⟨text, name⟩ target ⟨table, hmodule, hname⟩
  obtain ⟨rfl, rfl⟩ := Prod.mk.inj (List.mem_singleton.mp hmodule)
  obtain ⟨rfl, rfl⟩ := Prod.mk.inj (List.mem_singleton.mp hname)
  exact ⟨["core"], by decide +kernel⟩

theorem paths_read_back_method :
    split (join (split "::a:::b::::c::")) = ["a", ":b", "c"] ∧
      keyedMethod.key ∈ (({} : Catalog).addSymbol keyedMethod).withTail (join ["Engine", "new"]) ∧
      keyedMethod.key ∉ (({} : Catalog).addSymbol keyedMethod).withPath (join ["Engine", "new"]) ∧
      (({} : Catalog).addAlias (join ["core"]) "run" "engine::run").aliases.get? (join ["core", "run"]) =
        some "engine::run" ∧
      ∃ module name, ["core", "run"] = module ++ [name] ∧ keyedImports.Binds (join module, name) "engine::run" := by
  obtain ⟨hread, -, -, hindexes, halias, hproject⟩ := paths_read_back
  have hown : Names ["core", "Engine", "new"] := by decide +kernel
  have hlooked : Names ["Engine", "new"] := by decide +kernel
  have hnames : Names ["core", "run"] := by decide +kernel
  have hmethod : keyedMethod.fullPath = join ["core", "Engine", "new"] := by decide +kernel
  obtain ⟨hpath, htail⟩ :=
    hindexes (({} : Catalog).addSymbol keyedMethod) keyedMethod _ _ List.mem_cons_self hmethod hown hlooked
  refine ⟨(hread _).trans (by decide +kernel), htail.mpr ⟨rfl, ⟨["core"], rfl⟩⟩, ?_, ?_, ?_⟩
  · rw [hpath]
    decide
  · rw [halias _ ["core"] "run" "engine::run" ["core", "run"] hnames hnames]
    decide +kernel
  · exact hproject [] keyedImports byName_keyedImports _ _ hnames (by decide +kernel)

end Catalog

end Deadwood
