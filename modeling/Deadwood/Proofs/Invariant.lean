/-
What a built call graph can be relied on for.

`WellFormed symbols calls graph` is the representation invariant: which functions
the catalog holds, what its tables list, that edges, entries and targets name
functions only, and where each call went.  The main statements are

* **`resolve_ok`** — a call can be resolved unless its written path has no segment;
* **`resolutions_build`**, **`external_build`** — with `Records.unresolved_eq`, each
  call is in the list that its resolution says;
* **`build_wellFormed`** — hence a graph can be built, it satisfies the invariant, and
  no look-up fails when it is judged, documented or drawn.
-/
import Deadwood.Proofs.Computations
import Deadwood.Proofs.Liveness
import Deadwood.Report.Document
import Deadwood.Report.Dot
import Mathlib.Data.Finset.Card
import Mathlib.Data.List.Perm.Basic

namespace Deadwood

/-- The files with a rank are those of the functions, and their ranks are their places. -/
theorem Index.Ranks.get?_eq_some_iff {symbols : List Symbol} {ranks : OrderedMap String ℕ} (h : Ranks symbols ranks)
    {file : String} {rank : ℕ} : ranks.get? file = some rank ↔ (filesOf symbols)[rank]? = some file := by
  constructor
  · intro hget
    have hfile : file ∈ filesOf symbols := by
      rw [← h.keys_eq, OrderedMap.mem_keys_iff, hget]
      rfl
    rw [h.rank file hfile] at hget
    obtain rfl := Option.some.inj hget
    exact List.getElem?_idxOf hfile
  · intro hplace
    obtain ⟨hrank, rfl⟩ := List.getElem?_eq_some_iff.mp hplace
    have hnodup : (filesOf symbols).Nodup := nodup_eraseDups _
    rw [h.rank _ (List.getElem_mem hrank), hnodup.idxOf_getElem rank hrank]

namespace Catalog

open ModulePath (split join)

variable {catalog : Catalog} {call : CallSite}

/-! ### Functions and indexes -/

/-- A catalog keeps the order in which functions were given. -/
theorem symbols_ofProject_sublist (symbols : List Symbol) (imports : Imports) :
    (ofProject symbols imports).symbols.Sublist symbols := by
  rw [symbols_ofProject]
  induction symbols using List.reverseRecOn with
  | nil => exact List.Sublist.refl _
  | append_singleton symbols s ih =>
    rw [List.foldl_append, List.foldl_cons, List.foldl_nil]
    by_cases hmem : s.key ∈ (symbols.foldl addSymbol {}).keys
    · rw [addSymbol_of_mem hmem]
      exact ih.trans (List.sublist_append_left _ _)
    · rw [symbols_addSymbol_of_notMem hmem]
      exact ih.append (List.Sublist.refl _)

/-- A list of keys is an index of the functions with a property: it names exactly these, each once, in the order
in which the catalog holds them. -/
structure Indexes (catalog : Catalog) (property : Symbol → Prop) (keys : List Key) : Prop where
  mem_iff : ∀ key, key ∈ keys ↔ ∃ s ∈ catalog.symbols, s.key = key ∧ property s
  nodup : keys.Nodup
  in_order : keys.Sublist catalog.keys

/-- A table has one row for each label of a function, and none without a function; the row is the index of the
functions with that label. -/
structure Tabulates (catalog : Catalog) (labelled : String → Symbol → Prop) (table : OrderedMap String (List Key)) :
    Prop where
  row : ∀ label, catalog.Indexes (labelled label) ((table.get? label).getD [])
  row_ne_nil : ∀ label, table.get? label ≠ some []
  labels_once : table.keys.Nodup

theorem tabulates_of_lists {label : Symbol → Option String} {table : OrderedMap String (List Key)}
    (h : Index.Lists label catalog.symbols table) {labelled : String → Symbol → Prop}
    (hlabel : ∀ name s, label s = some name ↔ labelled name s) : catalog.Tabulates labelled table where
  row name := by
    rw [h.row]
    refine ⟨fun key => ?_, catalog.nodup_map_filter _, List.filter_sublist.map _⟩
    rw [mem_listed]
    simp only [hlabel]
  row_ne_nil := h.row_ne_nil
  labels_once := h.nodup_keys

/-- A path has at least two segments, and the last two have a given text. -/
def EndsIn (tail path : String) : Prop :=
  ∃ owner name, [owner, name] <:+ split path ∧ tail = join [owner, name]

theorem tail?_eq_some_iff {path tail : String} : tail? path = some tail ↔ EndsIn tail path := by
  constructor
  · exact exists_of_tail?
  · rintro ⟨owner, name, ⟨front, hfront⟩, rfl⟩
    have hlength : (split path).length = front.length + 2 := by
      rw [← hfront, List.length_append]
      rfl
    have hdrop : (split path).drop ((split path).length - 2) = [owner, name] := by
      rw [hlength, Nat.add_sub_cancel, ← hfront, List.drop_left]
    rw [tail?, if_neg (by omega), hdrop]

/-! ### Look-ups by key -/

theorem exists_symbols {keys : List Key} (h : keys ⊆ catalog.keys) :
    ∃ symbols, symbols ⊆ catalog.symbols ∧ symbols.map (·.key) = keys := by
  induction keys with
  | nil => exact ⟨[], List.nil_subset _, rfl⟩
  | cons key rest ih =>
    obtain ⟨hkey, hrest⟩ := List.cons_subset.mp h
    obtain ⟨s, hs, rfl⟩ := mem_keys.mp hkey
    obtain ⟨symbols, hsymbols, rfl⟩ := ih hrest
    exact ⟨s :: symbols, List.cons_subset.mpr ⟨hs, hsymbols⟩, rfl⟩

/-- Known keys are found, with the functions that have them. -/
theorem exists_ordered? {keys : List Key} (h : keys ⊆ catalog.keys) :
    ∃ symbols, catalog.ordered? keys = some symbols ∧ symbols ⊆ catalog.symbols ∧
      (symbols.map (·.key)).Perm keys := by
  obtain ⟨symbols, hsub, rfl⟩ := exists_symbols h
  have hperm := catalog.inReportOrder_perm symbols
  exact ⟨_, ordered?_eq hsub, fun s hs => hsub (hperm.mem_iff.mp hs), hperm.map _⟩

/-! ### Calls that can be resolved -/

/-- The callee is written without a path, or with one that has a segment. -/
def HasWords (call : CallSite) : Prop :=
  ∀ written, call.path = some written → split written ≠ []

/-- Only a written path without segments keeps a call from being resolved. -/
theorem resolve_ok (h : HasWords call) : ∃ r, catalog.resolve call = .ok r := by
  refine exists_resolve_iff.mpr ?_
  rintro ⟨written, path, hwritten, hsplit, -⟩
  exact h written hwritten hsplit

/-- The targets of a call that is linked. -/
def linkedTo? (catalog : Catalog) (call : CallSite) : Option (List Key) :=
  match catalog.resolve call with
  | .ok (.linked _ targets) => some targets
  | _ => none

theorem linkedTo?_eq_some {targets : List Key} :
    catalog.linkedTo? call = some targets ↔ ∃ rule, catalog.resolve call = .ok (.linked rule targets) := by
  rw [linkedTo?]
  constructor
  · intro h
    split at h
    · rename_i rule targets' hr
      obtain rfl := Option.some.inj h
      exact ⟨rule, hr⟩
    · exact absurd h (by simp)
  · rintro ⟨rule, hr⟩
    rw [hr]

end Catalog

namespace CallGraph

open ModulePath (isModuleBody)

variable {symbols : List Symbol} {calls : List CallSite} {imports : Imports} {catalog : Catalog}
  {graph graph' : CallGraph} {call : CallSite}

/-! ### Where each call went -/

theorem resolutions_link (h : graph.link call = .ok graph') :
    graph'.resolutions =
      graph.resolutions ++ [call].filterMap fun call => (graph.catalog.linkedTo? call).map (call, ·) := by
  rcases link_cases h with ⟨hr, rfl⟩ | ⟨hr, rfl⟩ | ⟨rule, targets, hr, rfl⟩
  · simp [Catalog.linkedTo?, hr]
  · simp [Catalog.linkedTo?, hr]
  · simp [Catalog.linkedTo?, hr, addTargets_frame]

theorem external_link (h : graph.link call = .ok graph') :
    graph'.external = graph.external ++ [call].filter fun call => graph.catalog.resolve call = .ok .external := by
  rcases link_cases h with ⟨hr, rfl⟩ | ⟨hr, rfl⟩ | ⟨_, targets, hr, rfl⟩
  · simp [hr]
  · simp [hr]
  · simp [hr, addTargets_frame]

/-- The linked calls of a built graph, with their targets. -/
theorem resolutions_build (h : build symbols calls imports = .ok graph) :
    graph.resolutions =
      calls.filterMap fun call => ((Catalog.ofProject symbols imports).linkedTo? call).map (call, ·) := by
  let catalog := Catalog.ofProject symbols imports
  refine (build_induction (fun done graph => graph.catalog = catalog ∧
    graph.resolutions = done.filterMap fun call => (catalog.linkedTo? call).map (call, ·)) ⟨rfl, rfl⟩ ?_ h).2
  rintro done graph graph' call ⟨hcatalog, hdone⟩ hlink
  refine ⟨(catalog_link hlink).trans hcatalog, ?_⟩
  rw [resolutions_link hlink, hdone, hcatalog, List.filterMap_append]

/-- The calls of a built graph that leave the project. -/
theorem external_build (h : build symbols calls imports = .ok graph) :
    graph.external =
      calls.filter fun call => (Catalog.ofProject symbols imports).resolve call = .ok .external := by
  let catalog := Catalog.ofProject symbols imports
  refine (build_induction (fun done graph => graph.catalog = catalog ∧
    graph.external = done.filter fun call => catalog.resolve call = .ok .external) ⟨rfl, rfl⟩ ?_ h).2
  rintro done graph graph' call ⟨hcatalog, hdone⟩ hlink
  refine ⟨(catalog_link hlink).trans hcatalog, ?_⟩
  rw [external_link hlink, hdone, hcatalog, List.filter_append]

theorem map_fst_resolutions (h : build symbols calls imports = .ok graph) :
    graph.resolutions.map (·.1) =
      calls.filter fun call => ((Catalog.ofProject symbols imports).linkedTo? call).isSome := by
  rw [resolutions_build h, List.map_filterMap, ← List.filterMap_eq_filter]
  congr 1
  funext call
  cases hto : (Catalog.ofProject symbols imports).linkedTo? call with
  | none => simp [Option.guard, hto]
  | some targets => simp [Option.guard, hto]

/-- The pairs of a caller and a target of the linked calls that stand in a function of the catalog. -/
def calledPairs (graph : CallGraph) : List (Key × Key) :=
  (graph.resolutions.filter fun entry =>
    !isModuleBody entry.1.enclosing && graph.catalog.contains (callerKey entry.1)).flatMap fun entry =>
      entry.2.map (callerKey entry.1, ·)

/-! ### The invariant -/

/-- What a call graph of some functions and calls holds. -/
structure WellFormed (symbols : List Symbol) (calls : List CallSite) (graph : CallGraph) : Prop where
  /-- The catalog has the first function of each key, in the order in which they were given. -/
  firsts : ∀ s, s ∈ graph.catalog.symbols ↔ symbols.find? (·.key == s.key) = some s
  keyed : graph.catalog.keys.Nodup
  in_order : graph.catalog.symbols.Sublist symbols
  names : graph.catalog.Tabulates (fun name s => s.name = name) graph.catalog.index.names
  paths : graph.catalog.Tabulates (fun path s => s.fullPath = path) graph.catalog.index.paths
  tails : graph.catalog.Tabulates (fun tail s => Catalog.EndsIn tail s.fullPath) graph.catalog.index.tails
  /-- Files are ranked by their first appearance among the given functions. -/
  ranks : ∀ file rank, graph.catalog.index.ranks.get? file = some rank ↔ (Index.filesOf symbols)[rank]? = some file
  edge_ends : ∀ edge ∈ graph.edges, edge.1 ∈ graph.catalog.keys ∧ edge.2 ∈ graph.catalog.keys
  entries : ∀ key ∈ graph.moduleRoots, key ∈ graph.catalog.keys
  targets : ∀ entry ∈ graph.resolutions, entry.2 ≠ [] ∧ (∀ key ∈ entry.2, key ∈ graph.catalog.keys) ∧
    ∃ rule, graph.catalog.resolve entry.1 = .ok (.linked rule entry.2)
  /-- Each call is in one of three lists, as often as it was given, and in no two of them. -/
  each_once : (graph.resolutions.map (·.1) ++ (graph.unresolved ++ graph.external)).Perm calls
  apart : (graph.resolutions.map (·.1)).Disjoint graph.unresolved ∧
    (graph.resolutions.map (·.1)).Disjoint graph.external ∧ graph.unresolved.Disjoint graph.external
  calls_in_order : (graph.resolutions.map (·.1)).Sublist calls ∧ graph.unresolved.Sublist calls ∧
    graph.external.Sublist calls
  edge_count : graph.edges.length = graph.calledPairs.toFinset.card

section Built

variable (hbuild : build symbols calls imports = .ok graph)
include hbuild

theorem edge_ends_of_build {edge : Key × Key} (h : edge ∈ graph.edges) :
    edge.1 ∈ graph.catalog.keys ∧ edge.2 ∈ graph.catalog.keys := by
  have hrecords := records_build hbuild
  obtain ⟨call, -, -, -, hcaller, hleads⟩ := (hrecords.mem_edges edge.1 edge.2).mp h
  rw [hrecords.catalog_eq]
  exact ⟨hcaller, hleads.mem_keys⟩

theorem entries_of_build {key : Key} (h : key ∈ graph.moduleRoots) : key ∈ graph.catalog.keys := by
  have hrecords := records_build hbuild
  obtain ⟨call, -, -, hleads⟩ := (hrecords.mem_moduleRoots key).mp h
  rw [hrecords.catalog_eq]
  exact hleads.mem_keys

theorem mem_resolutions_of_build {entry : CallSite × List Key} :
    entry ∈ graph.resolutions ↔
      entry.1 ∈ calls ∧ ∃ rule, graph.catalog.resolve entry.1 = .ok (.linked rule entry.2) := by
  rw [resolutions_build hbuild, (records_build hbuild).catalog_eq, List.mem_filterMap]
  constructor
  · rintro ⟨call, hcall, hentry⟩
    obtain ⟨targets, hto, rfl⟩ := Option.map_eq_some_iff.mp hentry
    exact ⟨hcall, Catalog.linkedTo?_eq_some.mp hto⟩
  · rintro ⟨hcall, hlinked⟩
    exact ⟨entry.1, hcall, by rw [Catalog.linkedTo?_eq_some.mpr hlinked]; rfl⟩

theorem each_once_of_build :
    (graph.resolutions.map (·.1) ++ (graph.unresolved ++ graph.external)).Perm calls := by
  have hrecords := records_build hbuild
  let linked : CallSite → Bool := fun call => ((Catalog.ofProject symbols imports).linkedTo? call).isSome
  let unresolved : CallSite → Bool := fun call =>
    decide ((Catalog.ofProject symbols imports).resolve call = .ok .unresolved)
  -- Those that are not linked are the unresolved ones and those that leave the project.
  have hunresolved : (calls.filter fun call => !linked call).filter unresolved = graph.unresolved := by
    rw [hrecords.unresolved_eq, List.filter_filter]
    refine List.filter_congr fun call hcall => ?_
    simp only [linked, unresolved, Catalog.linkedTo?]
    by_cases hr : (Catalog.ofProject symbols imports).resolve call = .ok .unresolved
    · simp [hr]
    · simp [hr]
  have hexternal : (calls.filter fun call => !linked call).filter (fun call => !unresolved call) =
      graph.external := by
    rw [external_build hbuild, List.filter_filter]
    refine List.filter_congr fun call hcall => ?_
    obtain ⟨r, hr⟩ := hrecords.resolved call hcall
    cases r with
    | external => simp [linked, unresolved, Catalog.linkedTo?, hr]
    | unresolved => simp [linked, unresolved, Catalog.linkedTo?, hr]
    | linked rule targets => simp [linked, unresolved, Catalog.linkedTo?, hr]
  rw [map_fst_resolutions hbuild, ← hunresolved, ← hexternal]
  exact ((List.filter_append_perm unresolved _).append_left _).trans (List.filter_append_perm linked calls)

theorem apart_of_build :
    (graph.resolutions.map (·.1)).Disjoint graph.unresolved ∧
      (graph.resolutions.map (·.1)).Disjoint graph.external ∧ graph.unresolved.Disjoint graph.external := by
  have hrecords := records_build hbuild
  have hlinked : ∀ call ∈ graph.resolutions.map (·.1),
      ∃ rule targets, (Catalog.ofProject symbols imports).resolve call = .ok (.linked rule targets) := by
    intro call hcall
    obtain ⟨entry, hentry, rfl⟩ := List.mem_map.mp hcall
    obtain ⟨-, rule, hr⟩ := (mem_resolutions_of_build hbuild).mp hentry
    exact ⟨rule, entry.2, hrecords.catalog_eq ▸ hr⟩
  have hunresolved : ∀ call ∈ graph.unresolved, (Catalog.ofProject symbols imports).resolve call = .ok .unresolved := by
    intro call hcall
    rw [hrecords.unresolved_eq, List.mem_filter] at hcall
    exact of_decide_eq_true hcall.2
  have hexternal : ∀ call ∈ graph.external, (Catalog.ofProject symbols imports).resolve call = .ok .external := by
    intro call hcall
    rw [external_build hbuild, List.mem_filter] at hcall
    exact of_decide_eq_true hcall.2
  refine ⟨fun call h h' => ?_, fun call h h' => ?_, fun call h h' => ?_⟩
  · obtain ⟨rule, targets, hr⟩ := hlinked call h
    exact absurd (hr.symm.trans (hunresolved call h')) (by simp)
  · obtain ⟨rule, targets, hr⟩ := hlinked call h
    exact absurd (hr.symm.trans (hexternal call h')) (by simp)
  · exact absurd ((hunresolved call h).symm.trans (hexternal call h')) (by simp)

theorem calls_in_order_of_build :
    (graph.resolutions.map (·.1)).Sublist calls ∧ graph.unresolved.Sublist calls ∧ graph.external.Sublist calls := by
  rw [map_fst_resolutions hbuild, (records_build hbuild).unresolved_eq, external_build hbuild]
  exact ⟨List.filter_sublist, List.filter_sublist, List.filter_sublist⟩

theorem mem_calledPairs_iff {edge : Key × Key} : edge ∈ graph.calledPairs ↔ edge ∈ graph.edges := by
  have hrecords := records_build hbuild
  obtain ⟨a, b⟩ := edge
  rw [hrecords.mem_edges, calledPairs, List.mem_flatMap, ← hrecords.catalog_eq]
  simp only [List.mem_filter, List.mem_map, Prod.mk.injEq, Bool.and_eq_true, Bool.not_eq_true',
    Catalog.contains_iff, mem_resolutions_of_build hbuild]
  constructor
  · rintro ⟨entry, ⟨⟨hcall, rule, hr⟩, hbody, hcaller⟩, target, htarget, rfl, rfl⟩
    exact ⟨entry.1, hcall, hbody, rfl, hcaller, (Catalog.leads_of_linked hr).mpr htarget⟩
  · rintro ⟨call, hcall, hbody, rfl, hcaller, r, targets, hr, htargets, hb⟩
    cases r with
    | external => exact absurd htargets (by simp [Resolution.targets?])
    | unresolved =>
      obtain rfl : [] = targets := Option.some.inj htargets
      exact absurd hb List.not_mem_nil
    | linked rule targets' =>
      obtain rfl : targets' = targets := Option.some.inj htargets
      exact ⟨(call, targets'), ⟨⟨hcall, rule, hr⟩, hbody, hcaller⟩, b, hb, rfl, rfl⟩

theorem edge_count_of_build : graph.edges.length = graph.calledPairs.toFinset.card := by
  rw [← List.toFinset_card_of_nodup (records_build hbuild).nodup_edges]
  congr 1
  ext edge
  rw [List.mem_toFinset, List.mem_toFinset, mem_calledPairs_iff hbuild]

theorem wellFormed_of_build : WellFormed symbols calls graph := by
  have hcatalog := (records_build hbuild).catalog_eq
  have hindex := graph.catalog.describes
  constructor
  · intro s
    rw [hcatalog]
    exact Catalog.mem_ofProject_iff symbols imports s
  · exact graph.catalog.keyed
  · rw [hcatalog]
    exact Catalog.symbols_ofProject_sublist symbols imports
  · exact Catalog.tabulates_of_lists hindex.names fun name s => Option.some_inj
  · exact Catalog.tabulates_of_lists hindex.paths fun path s => Option.some_inj
  · exact Catalog.tabulates_of_lists hindex.tails fun tail s => Catalog.tail?_eq_some_iff
  · intro file rank
    rw [hindex.ranks.get?_eq_some_iff, hcatalog, Catalog.filesOf_ofProject]
  · exact fun edge hedge => edge_ends_of_build hbuild hedge
  · exact fun key hkey => entries_of_build hbuild hkey
  · intro entry hentry
    obtain ⟨-, rule, hr⟩ := (mem_resolutions_of_build hbuild).mp hentry
    have hresolves := Catalog.resolves_of_resolve hr
    exact ⟨hresolves.targets_ne_nil, fun key hkey => hresolves.mem_keys hkey, rule, hr⟩
  · exact each_once_of_build hbuild
  · exact apart_of_build hbuild
  · exact calls_in_order_of_build hbuild
  · exact edge_count_of_build hbuild

/-! ### What is reached -/

theorem mem_keys_of_roots {policy : Policy} {key : Key} (h : key ∈ graph.roots policy) : key ∈ graph.catalog.keys := by
  have hrecords := records_build hbuild
  rw [hrecords.catalog_eq]
  exact (hrecords.mem_roots_iff.mp h).mem_keys

theorem mem_keys_of_reachable {policy : Policy} {key : Key} (h : key ∈ graph.reachable (graph.roots policy)) :
    key ∈ graph.catalog.keys := by
  obtain ⟨root, -, hroot, hpath⟩ := mem_reachable_of_edges.mp h
  rcases hpath.cases_tail with rfl | ⟨caller, -, hedge⟩
  · exact hroot
  · exact (edge_ends_of_build hbuild hedge).2

/-- As many functions are reached as there are keys in what is reached. -/
theorem countP_reached {policy : Policy} :
    graph.catalog.symbols.countP (fun s => decide (s.key ∈ graph.reachable (graph.roots policy))) =
      (graph.reachable (graph.roots policy)).length := by
  have hperm : (graph.catalog.keys.filter fun key => decide (key ∈ graph.reachable (graph.roots policy))).Perm
      (graph.reachable (graph.roots policy)) := by
    have hnodup : graph.catalog.keys.Nodup := graph.catalog.keyed
    refine (List.perm_ext_iff_of_nodup (hnodup.filter _) (nodup_reachable graph _)).mpr fun key => ?_
    rw [List.mem_filter, decide_eq_true_eq, and_iff_right_iff_imp]
    exact mem_keys_of_reachable hbuild
  rw [← hperm.length_eq, ← List.countP_eq_length_filter, Catalog.keys, List.countP_map]
  rfl

/-- Every function is reached or not. -/
theorem length_unreached (policy : Policy) :
    (graph.reachable (graph.roots policy)).length + (graph.unreached (graph.reachable (graph.roots policy))).length =
      graph.catalog.symbols.length := by
  rw [← countP_reached hbuild, unreached, Census.unreached, ← List.countP_eq_length_filter,
    List.length_eq_countP_add_countP fun s : Symbol => decide (s.key ∈ graph.reachable (graph.roots policy))]
  simp

end Built

/-- What is not reached is dead or ignored. -/
theorem length_condemned (graph : CallGraph) (policy : Policy) :
    (graph.condemned policy).length + (graph.verdict policy).statistics.ignored =
      (graph.unreached (graph.reachable (graph.roots policy))).length := by
  have hignored : (graph.verdict policy).statistics.ignored =
      (graph.unreached (graph.reachable (graph.roots policy))).countP policy.ignores := by
    rw [statistics_verdict, numbers]
  rw [hignored, condemned, Census.condemned, ← unreached, ← List.countP_eq_length_filter, Nat.add_comm,
    List.length_eq_countP_add_countP policy.ignores]
  simp only [Bool.not_eq_true, Bool.decide_eq_false]

/-! ### Judging, documenting and drawing -/

theorem dead_subset (graph : CallGraph) (policy : Policy) :
    (graph.verdict policy).dead ⊆ graph.catalog.symbols := by
  intro s hs
  rw [dead_eq, Catalog.mem_inReportOrder] at hs
  exact (condemned_sublist graph policy).subset hs

/-- Only functions of the catalog are drawn: the dead ones are, and so are the ends of edges. -/
theorem kept_subset (hbuild : build symbols calls imports = .ok graph) (policy : Policy) (onlyDead : Bool) :
    Dot.kept graph (graph.verdict policy) onlyDead ⊆ graph.catalog.keys := by
  intro key hkey
  rw [Dot.kept] at hkey
  split at hkey
  · rw [List.mem_eraseDups, List.mem_append] at hkey
    rcases hkey with hdead | hnear
    · exact List.map_subset _ (dead_subset graph policy) hdead
    · obtain ⟨edge, hedge, hkey⟩ := List.mem_flatMap.mp hnear
      obtain ⟨hsource, htarget⟩ := edge_ends_of_build hbuild hedge
      rcases List.mem_append.mp hkey with hkey | hkey
      · split at hkey
        · rwa [List.mem_singleton.mp hkey]
        · exact absurd hkey List.not_mem_nil
      · split at hkey
        · rwa [List.mem_singleton.mp hkey]
        · exact absurd hkey List.not_mem_nil
  · exact hkey

/-- Every function that is drawn has a statement. -/
theorem statements_ok (hbuild : build symbols calls imports = .ok graph) (policy : Policy) (onlyDead : Bool) :
    ∃ statements, Dot.statements graph (graph.verdict policy) onlyDead = .ok statements := by
  rw [Dot.statements]
  refine exists_bind_ok (exists_mapM_ok fun key hkey => ?_) fun nodes => ⟨_, rfl⟩
  rw [Key.sort, List.mem_mergeSort] at hkey
  obtain ⟨s, hs, rfl⟩ := Catalog.mem_keys.mp (kept_subset hbuild policy onlyDead hkey)
  rw [Catalog.symbol?_of_mem hs]
  exact ⟨_, rfl⟩

/-- No look-up fails when a graph is judged by a policy, and the verdict documented or drawn. -/
structure FindsAll (graph : CallGraph) (policy : Policy) : Prop where
  /-- Known keys are found with the functions that have them, and the files of these have ranks. -/
  found : ∀ keys, keys ⊆ graph.catalog.keys → ∃ symbols, graph.catalog.ordered? keys = some symbols ∧
    symbols ⊆ graph.catalog.symbols ∧ (symbols.map (·.key)).Perm keys
  judged : graph.analyze? policy = some (graph.verdict policy)
  documented : graph.document? (graph.verdict policy) = some (graph.document (graph.verdict policy))
  /-- The graph can be drawn, with all functions or with the dead ones and what is near them. -/
  drawing : ∀ outcome : Outcome, outcome.graph = some graph → outcome.verdict = graph.verdict policy →
    ∀ onlyDead, ∃ lines, Dot.ofOutcome outcome onlyDead = .ok lines

theorem findsAll_of_build (hbuild : build symbols calls imports = .ok graph) (policy : Policy) :
    FindsAll graph policy where
  found _ := Catalog.exists_ordered?
  judged := analyze?_eq_some_verdict graph policy
  documented := (Option.some_get _).symm
  drawing outcome hgraph hverdict onlyDead := by
    rw [Dot.ofOutcome, hgraph, hverdict]
    exact exists_bind_ok (statements_ok hbuild policy onlyDead) fun body => ⟨_, rfl⟩

/-- **A graph can be built of any functions, any imports and any calls whose written paths have a segment, and it is
well formed.**  Hence no look-up fails under any policy. -/
theorem build_wellFormed (symbols : List Symbol) (calls : List CallSite) (imports : Imports)
    (hcalls : ∀ call ∈ calls, ∀ written, call.path = some written → ModulePath.split written ≠ []) :
    ∃ graph, build symbols calls imports = .ok graph ∧ WellFormed symbols calls graph ∧
      ∀ policy, FindsAll graph policy := by
  obtain ⟨graph, hbuild⟩ := build_ok_iff.mpr fun call hcall => Catalog.resolve_ok (hcalls call hcall)
  exact ⟨graph, hbuild, wellFormed_of_build hbuild, findsAll_of_build hbuild⟩

theorem build_wellFormed_sample :
    (∀ call ∈ [sampleCall, sampleCall], ∀ written, call.path = some written → ModulePath.split written ≠ []) ∧
      build [sampleMake, sampleArea, sampleMake, sampleMain] [sampleCall, sampleCall] {} = .ok sampleTwice ∧
      WellFormed [sampleMake, sampleArea, sampleMake, sampleMain] [sampleCall, sampleCall] sampleTwice ∧
      FindsAll sampleTwice {} := by
  have hcalls : ∀ call ∈ [sampleCall, sampleCall], ∀ written, call.path = some written →
      ModulePath.split written ≠ [] := by
    intro call hcall written hwritten
    obtain rfl : call = sampleCall := by simpa using hcall
    obtain rfl : "Point::make" = written := Option.some.inj hwritten
    decide +kernel
  -- The second function with the key of the first is left out, and each call is recorded.
  have hbuild : build [sampleMake, sampleArea, sampleMake, sampleMain] [sampleCall, sampleCall] {} =
      .ok sampleTwice := rfl
  obtain ⟨graph, hgraph, hwell, hfinds⟩ :=
    build_wellFormed [sampleMake, sampleArea, sampleMake, sampleMain] [sampleCall, sampleCall] {} hcalls
  obtain rfl := Except.ok.inj (hgraph.symm.trans hbuild)
  exact ⟨hcalls, hbuild, hwell, hfinds {}⟩

end CallGraph

end Deadwood
