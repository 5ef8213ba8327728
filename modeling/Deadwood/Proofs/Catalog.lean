/-
The functions of a catalog.

A catalog holds the first function of each key and leaves the others out
(`mem_ofProject_iff`).  What later proofs need about look-ups follows from its tables:

* **`symbol?_eq_some_iff`**, **`eq_of_key_eq`** — a function is found under its key;
* **`withName_eq`**, **`withPath_eq`**, **`withTail_eq`** — a look-up in a table finds
  what a search through all functions finds, so it names no function twice;
* **`ordered?_eq`** — functions of a catalog are found again by their keys, and put in
  the order of reports;
* **`pairwise_inReportOrder`** — in that order no two functions of a catalog share a
  place, so the order is strict.

The place of a function in reports is `reportPlace`, with the rank of its file
among the files of the given functions, left-out ones included
(`filesOf_ofProject`).
-/
import Deadwood.CallGraph.Catalog
import Mathlib.Data.List.Induction
import Mathlib.Data.List.Nodup
import Mathlib.Data.Prod.Lex
import Mathlib.Data.String.Basic

namespace Deadwood.Catalog

open Index (filesOf mem_filesOf filesOf_append)

variable {catalog : Catalog} {key : Key} {s t : Symbol}

/-! ### One function for each key -/

theorem eq_of_key_eq (hs : s ∈ catalog.symbols) (ht : t ∈ catalog.symbols) (hkey : s.key = t.key) : s = t :=
  List.inj_on_of_nodup_map catalog.keyed hs ht hkey

theorem mem_of_symbol? (h : catalog.symbol? key = some s) : s ∈ catalog.symbols ∧ s.key = key :=
  ⟨List.mem_of_find?_eq_some h, by simpa using List.find?_some h⟩

theorem symbol?_of_mem (hs : s ∈ catalog.symbols) : catalog.symbol? s.key = some s := by
  cases hfind : catalog.symbol? s.key with
  | none =>
    have hnone := List.find?_eq_none.mp hfind s hs
    exact absurd (beq_self_eq_true s.key) hnone
  | some t =>
    obtain ⟨ht, hkey⟩ := mem_of_symbol? hfind
    rw [eq_of_key_eq ht hs hkey]

theorem symbol?_eq_some_iff : catalog.symbol? key = some s ↔ s ∈ catalog.symbols ∧ s.key = key := by
  constructor
  · exact mem_of_symbol?
  · rintro ⟨hs, rfl⟩
    exact symbol?_of_mem hs

/-! ### Look-ups in tables -/

/-- A search finds the keys of the functions with the property that it goes by. -/
theorem mem_map_key_filter {test : Symbol → Bool} :
    key ∈ (catalog.symbols.filter test).map (·.key) ↔ ∃ s ∈ catalog.symbols, s.key = key ∧ test s = true := by
  rw [List.mem_map]
  constructor
  · rintro ⟨s, hs, rfl⟩
    obtain ⟨hs, htest⟩ := List.mem_filter.mp hs
    exact ⟨s, hs, rfl, htest⟩
  · rintro ⟨s, hs, rfl, htest⟩
    exact ⟨s, List.mem_filter.mpr ⟨hs, htest⟩, rfl⟩

theorem mem_listed {label : Symbol → Option String} {name : String} :
    key ∈ Index.listed label catalog.symbols name ↔ ∃ s ∈ catalog.symbols, s.key = key ∧ label s = some name := by
  rw [Index.listed, mem_map_key_filter]
  simp only [decide_eq_true_eq]

theorem nodup_map_filter (catalog : Catalog) (test : Symbol → Bool) :
    ((catalog.symbols.filter test).map (·.key)).Nodup :=
  List.Nodup.sublist (List.filter_sublist.map _) catalog.keyed

theorem withName_eq (catalog : Catalog) (name : String) :
    catalog.withName name = Index.listed (fun s => some s.name) catalog.symbols name :=
  catalog.describes.names.row name

theorem withPath_eq (catalog : Catalog) (path : String) :
    catalog.withPath path = Index.listed (fun s => some s.fullPath) catalog.symbols path :=
  catalog.describes.paths.row path

theorem withTail_eq (catalog : Catalog) (tail : String) :
    catalog.withTail tail = Index.listed (fun s => tail? s.fullPath) catalog.symbols tail :=
  catalog.describes.tails.row tail

theorem mem_withName {name : String} :
    key ∈ catalog.withName name ↔ ∃ s ∈ catalog.symbols, s.key = key ∧ s.name = name := by
  rw [withName_eq, mem_listed]
  simp only [Option.some.injEq]

theorem mem_withPath {path : String} :
    key ∈ catalog.withPath path ↔ ∃ s ∈ catalog.symbols, s.key = key ∧ s.fullPath = path := by
  rw [withPath_eq, mem_listed]
  simp only [Option.some.injEq]

theorem mem_withTail {tail : String} :
    key ∈ catalog.withTail tail ↔ ∃ s ∈ catalog.symbols, s.key = key ∧ tail? s.fullPath = some tail := by
  rw [withTail_eq, mem_listed]

theorem nodup_withName (catalog : Catalog) (name : String) : (catalog.withName name).Nodup := by
  rw [withName_eq]
  exact catalog.nodup_map_filter _

theorem nodup_withPath (catalog : Catalog) (path : String) : (catalog.withPath path).Nodup := by
  rw [withPath_eq]
  exact catalog.nodup_map_filter _

theorem nodup_withTail (catalog : Catalog) (tail : String) : (catalog.withTail tail).Nodup := by
  rw [withTail_eq]
  exact catalog.nodup_map_filter _

/-! ### Building a catalog -/

theorem addSymbol_of_mem (h : s.key ∈ catalog.keys) : catalog.addSymbol s = catalog := by
  rw [addSymbol, dif_pos (contains_iff.mpr h)]

theorem symbols_addSymbol_of_notMem (h : s.key ∉ catalog.keys) :
    (catalog.addSymbol s).symbols = catalog.symbols ++ [s] := by
  rw [addSymbol, dif_neg fun hc => h (contains_iff.mp hc)]

theorem keys_addSymbol_of_notMem (h : s.key ∉ catalog.keys) :
    (catalog.addSymbol s).keys = catalog.keys ++ [s.key] := by
  rw [keys, symbols_addSymbol_of_notMem h, List.map_append]
  rfl

theorem aliases_addSymbol (catalog : Catalog) (s : Symbol) : (catalog.addSymbol s).aliases = catalog.aliases := by
  rw [addSymbol]
  split <;> rfl

theorem aliases_foldl_addSymbol (symbols : List Symbol) (catalog : Catalog) :
    (symbols.foldl addSymbol catalog).aliases = catalog.aliases := by
  induction symbols generalizing catalog with
  | nil => rfl
  | cons s rest ih => rw [List.foldl_cons, ih, aliases_addSymbol]

theorem symbols_addAlias (catalog : Catalog) (module name target : String) :
    (catalog.addAlias module name target).symbols = catalog.symbols := by
  rw [addAlias]
  split <;> rfl

/-- Imports add aliases and no functions. -/
theorem symbols_addImports (catalog : Catalog) (imports : Imports) :
    (catalog.addImports imports).symbols = catalog.symbols := by
  have htable : ∀ (module : String) (table : List (String × String)) (catalog : Catalog),
      (table.foldl (fun catalog binding => catalog.addAlias module binding.1 binding.2) catalog).symbols =
        catalog.symbols := by
    intro module table
    induction table with
    | nil => exact fun _ => rfl
    | cons binding rest ih =>
      intro catalog
      rw [List.foldl_cons, ih, symbols_addAlias]
  rw [addImports]
  induction imports.entries generalizing catalog with
  | nil => rfl
  | cons entry rest ih => rw [List.foldl_cons, ih, htable]

theorem symbols_ofProject (symbols : List Symbol) (imports : Imports) :
    (ofProject symbols imports).symbols = (symbols.foldl addSymbol {}).symbols := by
  rw [ofProject, symbols_addImports]

theorem mem_keys_foldl_addSymbol {symbols : List Symbol} :
    key ∈ (symbols.foldl addSymbol {}).keys ↔ key ∈ symbols.map (·.key) := by
  induction symbols using List.reverseRecOn with
  | nil => exact Iff.rfl
  | append_singleton symbols s ih =>
    rw [List.foldl_append, List.foldl_cons, List.foldl_nil, List.map_append, List.mem_append, ← ih,
      List.map_singleton, List.mem_singleton]
    by_cases hmem : s.key ∈ (symbols.foldl addSymbol {}).keys
    · rw [addSymbol_of_mem hmem]
      exact ⟨Or.inl, fun h => h.elim id fun heq => heq ▸ hmem⟩
    · rw [keys_addSymbol_of_notMem hmem, List.mem_append, List.mem_singleton]

/-- No key of the given functions is lost. -/
theorem mem_keys_ofProject {symbols : List Symbol} {imports : Imports} :
    key ∈ (ofProject symbols imports).keys ↔ key ∈ symbols.map (·.key) := by
  rw [keys, symbols_ofProject]
  exact mem_keys_foldl_addSymbol

/-- A function is in a catalog if it is the first of the given ones with its key. -/
theorem mem_ofProject_iff (symbols : List Symbol) (imports : Imports) (s : Symbol) :
    s ∈ (ofProject symbols imports).symbols ↔ symbols.find? (·.key == s.key) = some s := by
  rw [symbols_ofProject]
  induction symbols using List.reverseRecOn with
  | nil => simp
  | append_singleton symbols t ih =>
    rw [List.foldl_append, List.foldl_cons, List.foldl_nil, List.find?_append, Option.or_eq_some_iff, ← ih]
    have hlast : [t].find? (·.key == s.key) = some s ↔ s = t := by
      rw [List.find?_singleton]
      constructor
      · intro h
        split at h
        · exact (Option.some.inj h).symm
        · exact absurd h (by simp)
      · rintro rfl
        rw [if_pos (beq_self_eq_true _)]
    -- The last function counts only if no earlier one has its key.
    have hnone : symbols.find? (·.key == s.key) = none ↔ s.key ∉ (symbols.foldl addSymbol {}).keys := by
      rw [mem_keys_foldl_addSymbol, List.find?_eq_none]
      simp
    rw [hlast, hnone]
    by_cases hmem : t.key ∈ (symbols.foldl addSymbol {}).keys
    · rw [addSymbol_of_mem hmem]
      refine ⟨Or.inl, fun h => h.elim id ?_⟩
      rintro ⟨hnot, rfl⟩
      exact absurd hmem hnot
    · rw [symbols_addSymbol_of_notMem hmem, List.mem_append, List.mem_singleton]
      refine or_congr_right ⟨?_, And.right⟩
      rintro rfl
      exact ⟨hmem, rfl⟩

/-- If no key is repeated, nothing is left out. -/
theorem symbols_ofProject_of_nodup {symbols : List Symbol} (h : (symbols.map (·.key)).Nodup) (imports : Imports) :
    (ofProject symbols imports).symbols = symbols := by
  rw [symbols_ofProject]
  induction symbols using List.reverseRecOn with
  | nil => rfl
  | append_singleton symbols s ih =>
    rw [List.map_append, List.nodup_append] at h
    obtain ⟨hinit, -, hdisjoint⟩ := h
    have hnot : s.key ∉ (symbols.foldl addSymbol {}).keys := by
      rw [mem_keys_foldl_addSymbol]
      exact fun hmem => hdisjoint s.key hmem s.key (by simp) rfl
    rw [List.foldl_append, List.foldl_cons, List.foldl_nil, symbols_addSymbol_of_notMem hnot, ih hinit]

/-! ### The order of reports -/

/-- What reports are ordered by: the rank of the file among those of some functions, then the place in the file,
then the path. -/
def reportPlace (symbols : List Symbol) (s : Symbol) : ℕ ×ₗ ℤ ×ₗ String :=
  toLex ((filesOf symbols).idxOf s.file, toLex (s.order, s.fullPath))

/-- The functions that are left out of a catalog bring no new file. -/
theorem filesOf_ofProject (symbols : List Symbol) (imports : Imports) :
    filesOf (ofProject symbols imports).symbols = filesOf symbols := by
  rw [symbols_ofProject]
  induction symbols using List.reverseRecOn with
  | nil => rfl
  | append_singleton symbols s ih =>
    rw [List.foldl_append, List.foldl_cons, List.foldl_nil, filesOf_append]
    by_cases hmem : s.key ∈ (symbols.foldl addSymbol {}).keys
    · -- A function that is left out has the key, and so the file, of an earlier one.
      obtain ⟨t, ht, hkey⟩ := List.mem_map.mp (mem_keys_foldl_addSymbol.mp hmem)
      have hfile : t.file = s.file := congrArg Key.file hkey
      rw [addSymbol_of_mem hmem, ih, if_pos (hfile ▸ mem_filesOf ht)]
    · rw [symbols_addSymbol_of_notMem hmem, filesOf_append, ih]

theorem reportPlace_injOn (hs : s ∈ catalog.symbols) (ht : t ∈ catalog.symbols)
    (hplace : reportPlace catalog.symbols s = reportPlace catalog.symbols t) : s = t := by
  rw [reportPlace, reportPlace, toLex_inj, Prod.mk.injEq, toLex_inj, Prod.mk.injEq] at hplace
  obtain ⟨hrank, -, hpath⟩ := hplace
  have hfile : s.file = t.file := (List.idxOf_inj (mem_filesOf hs)).mp hrank
  refine eq_of_key_eq hs ht ?_
  rw [Symbol.key, Symbol.key, hfile, hpath]

/-- Functions in the order of reports. -/
def inReportOrder (catalog : Catalog) (symbols : List Symbol) : List Symbol :=
  symbols.mergeSort fun a b => reportPlace catalog.symbols a ≤ reportPlace catalog.symbols b

theorem mem_inReportOrder {symbols : List Symbol} : s ∈ catalog.inReportOrder symbols ↔ s ∈ symbols :=
  List.mem_mergeSort

theorem inReportOrder_perm (catalog : Catalog) (symbols : List Symbol) : (catalog.inReportOrder symbols).Perm symbols :=
  List.mergeSort_perm _ _

/-- Functions of a catalog come in strictly increasing places. -/
theorem pairwise_inReportOrder {symbols : List Symbol} (hsub : symbols.Sublist catalog.symbols) :
    (catalog.inReportOrder symbols).Pairwise fun a b =>
      reportPlace catalog.symbols a < reportPlace catalog.symbols b := by
  have hle : (catalog.inReportOrder symbols).Pairwise fun a b =>
      decide (reportPlace catalog.symbols a ≤ reportPlace catalog.symbols b) = true := by
    apply List.pairwise_mergeSort
    · intro a b c
      simp only [decide_eq_true_eq]
      exact le_trans
    · intro a b
      rw [Bool.or_eq_true, decide_eq_true_eq, decide_eq_true_eq]
      exact le_total _ _
  have hperm := catalog.inReportOrder_perm symbols
  have hnodup : (catalog.inReportOrder symbols).Nodup :=
    hperm.nodup_iff.mpr (hsub.nodup (List.Nodup.of_map _ catalog.keyed))
  have hmem : ∀ a ∈ catalog.inReportOrder symbols, a ∈ catalog.symbols :=
    fun a ha => hsub.subset (hperm.mem_iff.mp ha)
  refine (hle.and hnodup).imp_of_mem ?_
  rintro a b ha hb ⟨hab, hne⟩
  refine lt_of_le_of_ne (of_decide_eq_true hab) fun heq => hne ?_
  exact reportPlace_injOn (hmem a ha) (hmem b hb) heq

/-! ### Functions in order, by their keys -/

theorem mapM_symbol? {symbols : List Symbol} (hsub : symbols ⊆ catalog.symbols) :
    (symbols.map (·.key)).mapM catalog.symbol? = some symbols := by
  induction symbols with
  | nil => rfl
  | cons s rest ih =>
    obtain ⟨hs, hrest⟩ := List.cons_subset.mp hsub
    rw [List.map_cons, List.mapM_cons, symbol?_of_mem hs, ih hrest]
    rfl

/-- A function with the rank of its file. -/
def ranked (catalog : Catalog) (s : Symbol) : ℕ × Symbol :=
  ((filesOf catalog.symbols).idxOf s.file, s)

theorem mapM_ranked {symbols : List Symbol} (hsub : symbols ⊆ catalog.symbols) :
    (symbols.mapM fun s => (catalog.fileRank? s.file).map (·, s)) = some (symbols.map catalog.ranked) := by
  induction symbols with
  | nil => rfl
  | cons s rest ih =>
    obtain ⟨hs, hrest⟩ := List.cons_subset.mp hsub
    have hrank : catalog.fileRank? s.file = some ((filesOf catalog.symbols).idxOf s.file) :=
      catalog.describes.ranks.rank s.file (mem_filesOf hs)
    rw [List.mapM_cons, hrank, ih hrest]
    rfl

theorem rankedLe_iff {i j : ℕ} {a b : Symbol} : rankedLe (i, a) (j, b) = true ↔
    toLex (i, toLex (a.order, a.fullPath)) ≤ toLex (j, toLex (b.order, b.fullPath)) := by
  rw [Prod.Lex.toLex_le_toLex, Prod.Lex.toLex_le_toLex]
  simp only [rankedLe, Bool.or_eq_true, Bool.and_eq_true, decide_eq_true_eq, beq_iff_eq]

/-- Functions of a catalog are found again by their keys, and put in the order of reports. -/
theorem ordered?_eq {symbols : List Symbol} (hsub : symbols ⊆ catalog.symbols) :
    catalog.ordered? (symbols.map (·.key)) = some (catalog.inReportOrder symbols) := by
  have hsort : ((symbols.map catalog.ranked).mergeSort rankedLe).map (·.2) = catalog.inReportOrder symbols := by
    have hle : ∀ a ∈ symbols.map catalog.ranked, ∀ b ∈ symbols.map catalog.ranked,
        rankedLe a b = decide (reportPlace catalog.symbols a.2 ≤ reportPlace catalog.symbols b.2) := by
      intro a ha b hb
      obtain ⟨s, -, rfl⟩ := List.mem_map.mp ha
      obtain ⟨t, -, rfl⟩ := List.mem_map.mp hb
      rw [Bool.eq_iff_iff, decide_eq_true_eq]
      exact rankedLe_iff
    have hsymbols : (symbols.map catalog.ranked).map (·.2) = symbols := by
      rw [List.map_map]
      exact List.map_id symbols
    have hmap := List.map_mergeSort (s := fun a b => reportPlace catalog.symbols a ≤ reportPlace catalog.symbols b) hle
    rw [hmap, hsymbols]
    rfl
  rw [ordered?, mapM_symbol? hsub]
  show Option.bind (symbols.mapM _) _ = _
  rw [mapM_ranked hsub, ← hsort]
  rfl

end Deadwood.Catalog
