/-
Calls by a path that begins in the project.

A path that begins with `crate`, `self` or `super` names a place in the project.  A
call by such a path is recorded with the path as it is written and with its
crate-relative form, and from that form the beginning is gone: `crate::core::run`
becomes `core::run`, which reads like a path into the crate `core`.  So

* **`Catalog.external_iff_of_inside`** — a call whose written path does not begin
  outside of the project leaves it exactly if its crate-relative path does, as imports
  lead on, and no function has that path;
* **`own_path_leaves_iff`** — this is the case for every call by such a path, in every
  project; if the call does not leave, it reaches a function whenever one has its name;
* **`own_path_leaves`** — and there is a project that such a call leaves, although it has
  a function with the name.
-/
import Deadwood.Proofs.Callees
import Deadwood.Proofs.Invariant

namespace Deadwood

open Syntax
open ModulePath (split join)

/-- The segments by which a path begins in the project itself. -/
def ownHeads : List String := ["crate", "self", "super"]

theorem mem_ownHeads {head : String} : head ∈ ownHeads ↔ head = "crate" ∨ head = "self" ∨ head = "super" := by
  simp [ownHeads]

/-! ### Qualified calls -/

namespace Catalog

variable {catalog : Catalog} {call : CallSite} {path written : String}

theorem lexical?_of_path (h : call.path = some written) : catalog.lexical? call = none := by
  simp [lexical?, h]

theorem followAlias_empty (catalog : Catalog) : catalog.followAlias "" = "" := by
  have hsplit : split "" = [] := by decide +kernel
  simp [followAlias, hsplit, starts]

/-- What begins outside is not empty. -/
theorem ne_empty_of_outside (h : BeginsOutside (catalog.followAlias path)) : path ≠ "" := by
  rintro rfl
  rw [followAlias_empty] at h
  obtain ⟨root, -, hhead⟩ := h
  have hsplit : split "" = [] := by decide +kernel
  rw [hsplit] at hhead
  exact absurd hhead (by simp)

/-- A call by a path that is unknown and that imports lead outside leaves the project. -/
theorem resolve_of_outside (hpath : call.path = some written) (hresolved : call.resolved = some path)
    (hunknown : catalog.Unknown path) (houtside : BeginsOutside (catalog.followAlias path)) :
    catalog.resolve call = .ok .external := by
  have hne := ne_empty_of_outside houtside
  -- No function has the path, neither as it is recorded nor as imports lead on from it.
  have hnone : (if catalog.followAlias path == path then [] else catalog.exact (catalog.followAlias path) call.file) =
      [] := by
    rw [exact_eq_nil.mpr hunknown.2, ite_self]
  have hout : (split (catalog.followAlias path)).head?.any externalRoots.contains = true := by
    obtain ⟨root, hroot, hhead⟩ := houtside
    rw [hhead, Option.any_some]
    exact List.contains_iff_mem.mpr hroot
  have hby : catalog.resolveByPath? call path = .ok (some .external) := by
    rw [resolveByPath?, exact_eq_nil.mpr hunknown.1]
    dsimp only
    rw [hnone, hpath]
    dsimp only
    rw [resolveWritten?, if_pos hout]
  rw [resolve, lexical?_of_path hpath, hresolved, Option.filter_some, if_pos (bne_iff_ne.mpr hne)]
  dsimp only
  rw [hby]
  rfl

/-- Where a call by a path leads that does not begin outside as it is written. -/
theorem external_iff_of_inside (hpath : call.path = some written) (hwords : split written ≠ [])
    (hinside : ¬ BeginsOutside written) (hresolved : call.resolved = some path) :
    ∃ r, catalog.resolve call = .ok r ∧
      (r = .external ↔ catalog.Unknown path ∧ BeginsOutside (catalog.followAlias path)) := by
  have hhas : HasWords call := by
    intro written' hwritten'
    rw [hpath] at hwritten'
    rwa [← Option.some.inj hwritten']
  obtain ⟨r, hr⟩ := catalog.resolve_ok hhas
  refine ⟨r, hr, fun hexternal => ?_, fun ⟨hunknown, houtside⟩ => ?_⟩
  · rw [hexternal] at hr
    cases resolves_of_resolve hr with
    | @external path' written' _ resolved unknown qualified outside =>
      -- The call has one written path and one crate-relative path, and the former is inside.
      obtain rfl : written = written' := Option.some.inj (hpath.symm.trans qualified)
      obtain rfl : path = path' := Option.some.inj (hresolved.symm.trans resolved.1)
      exact ⟨unknown, outside.resolve_left hinside⟩
  · exact Except.ok.inj (hr.symm.trans (resolve_of_outside hpath hresolved hunknown houtside))

/-- A call that stays in the project reaches a function if one has its name. -/
theorem exists_leads_of_named {r : Resolution} (hr : catalog.resolve call = .ok r) (hstays : r ≠ .external)
    {s : Symbol} (hs : s ∈ catalog.symbols) (hname : s.name = call.callee) : ∃ key, catalog.Leads call key := by
  have hres := resolves_of_resolve hr
  cases r with
  | external => exact absurd rfl hstays
  | unresolved => exact absurd hname (hres.unresolved_name rfl s hs)
  | linked rule targets =>
    obtain ⟨key, hkey⟩ := List.exists_mem_of_ne_nil _ hres.targets_ne_nil
    exact ⟨key, (leads_of_linked hr).mpr hkey⟩

end Catalog

/-! ### Paths that begin in the project -/

theorem exists_normalize?_of_own {head : String} (hhead : head ∈ ownHeads) (scope : Scope) (rest : List String) :
    ∃ own, scope.normalize? (head :: rest) = some own := by
  rcases mem_ownHeads.mp hhead with rfl | rfl | rfl
  · exact ⟨rest, rfl⟩
  · exact ⟨scope.moduleSegments ++ rest, rfl⟩
  · exact ⟨_, rfl⟩

theorem qualify_of_own {head : String} (hhead : head ∈ ownHeads) (imports : Imports) {scope : Scope}
    {front own : List String} {name : String} (hown : scope.normalize? (head :: (front ++ [name])) = some own) :
    qualify imports scope (head :: (front ++ [name])) = (some (join (head :: (front ++ [name]))), some (join own)) := by
  obtain ⟨next, rest, hrest⟩ : ∃ next rest, front ++ [name] = next :: rest := by
    cases front with
    | nil => exact ⟨name, [], rfl⟩
    | cons next front => exact ⟨next, front ++ [name], rfl⟩
  have hrelative : relativeHeads.contains head = true := by
    rcases mem_ownHeads.mp hhead with rfl | rfl | rfl <;> decide
  rw [hrest] at hown ⊢
  simp only [qualify, hrelative, if_true, hown, Option.map_some]

/-- A path that begins in the project is written with a segment, and not with one that leads outside. -/
theorem split_join_of_own {head : String} (hhead : head ∈ ownHeads) (rest : List String) :
    split (join (head :: rest)) ≠ [] ∧ ¬ Catalog.BeginsOutside (join (head :: rest)) := by
  have hname : head ≠ "" ∧ ':' ∉ head.toList ∧ head ∉ externalRoots := by
    rcases mem_ownHeads.mp hhead with rfl | rfl | rfl <;> decide +kernel
  obtain ⟨hne, hcolon, hinside⟩ := hname
  have hfirst := ModulePath.head?_split_join hne hcolon rest
  constructor
  · intro hnil
    rw [hnil] at hfirst
    exact absurd hfirst (by simp)
  · rintro ⟨root, hroot, hhead⟩
    rw [hfirst] at hhead
    exact hinside (Option.some.inj hhead ▸ hroot)

/-- **When a call that names the project itself leaves it.**  Let a call be written in a file of a project by a path
of two or more segments that begins with `crate`, `self` or `super`.  It can be resolved.  It leaves the project
exactly if no function has its crate-relative path, as it is or as imports lead on from it, and the latter begins with
`std`, `core` or `alloc`.  Otherwise it reaches a function if any function of the project has the name that is called. -/
theorem own_path_leaves_iff {files : List (String × Source × Node)} {graph : CallGraph}
    (hgraph : FileFacts.graph (FileFacts.ofTrees files) = .ok graph) {file : String} {source : Source} {root : Node}
    (hfile : (file, source, root) ∈ files) {w : WrittenCall} (hw : Written source root w) {head name : String}
    {front : List String} (hcallee : w.callee = .path (head :: front) name) (hhead : head ∈ ownHeads)
    {call : CallSite} (hcall : w.site file source (FileCalls.extract file source root).imports = call) :
    ∃ own r, (w.scope file).normalize? (head :: (front ++ [name])) = some own ∧
      graph.catalog.resolve call = .ok r ∧ (call ∈ graph.external ↔ r = .external) ∧
      (r = .external ↔
        graph.catalog.Unknown (join own) ∧ Catalog.BeginsOutside (graph.catalog.followAlias (join own))) ∧
      (r ≠ .external → (∃ s ∈ graph.catalog.symbols, s.name = name) → ∃ key, graph.catalog.Leads call key) := by
  obtain ⟨own, hown⟩ := exists_normalize?_of_own hhead (w.scope file) (front ++ [name])
  have hsite : call.callee = name ∧ call.path = some (join (head :: (front ++ [name]))) ∧
      call.resolved = some (join own) := by
    rw [← hcall, WrittenCall.site, hcallee, Callee.site, List.cons_append, qualify_of_own hhead _ hown]
    exact ⟨rfl, rfl, rfl⟩
  obtain ⟨hname, hpath, hresolved⟩ := hsite
  obtain ⟨hwords, hinside⟩ := split_join_of_own hhead (front ++ [name])
  obtain ⟨r, hr, hiff⟩ := graph.catalog.external_iff_of_inside hpath hwords hinside hresolved
  have hmem : call ∈ (FileFacts.ofTrees files).flatMap fun facts => facts.calls.calls :=
    List.mem_flatMap.mpr ⟨_, List.mem_map_of_mem hfile, hcall ▸ hw.mem_calls⟩
  refine ⟨own, r, hown, hr, ?_, hiff, ?_⟩
  · rw [CallGraph.external_build hgraph, ← (CallGraph.records_build hgraph).catalog_eq, List.mem_filter,
      decide_eq_true_iff, hr]
    exact ⟨fun h => Except.ok.inj h.2, fun h => ⟨hmem, congrArg _ h⟩⟩
  · rintro hstays ⟨s, hs, hnamed⟩
    exact Catalog.exists_leads_of_named hr hstays hs (hnamed.trans hname.symm)

/-- The text `fn f() { crate::m::g() }` for a module `m`. -/
def ownCallText (module : String) : Source := .ofText ("fn f() \x7b crate::" ++ module ++ "::g() \x7d")

/-- The call in it, if the name of the module has four letters. -/
def ownCallExpression : Node :=
  .mk .callExpression 9 25 none true false [
    .mk .scopedIdentifier 9 23 (some "function") true false [
      .mk .scopedIdentifier 9 20 (some "path") true false [
        .mk .crateKeyword 9 14 (some "path") true false [],
        .mk .identifier 16 20 (some "name") true false []],
      .mk .identifier 22 23 (some "name") true false []],
    .mk (.other "arguments") 23 25 (some "arguments") true false []]

/-- The tree of that text. -/
def ownCallTree : Node :=
  .mk (.other "source_file") 0 27 none true false [
    .mk .functionItem 0 27 none true false [
      .mk .identifier 3 4 (some "name") true false [],
      .mk (.other "block") 7 27 (some "body") true false [ownCallExpression]]]

/-- A project of two files: a call of `g` in the module, and the function `g` in another file. -/
def ownCallFiles (module file : String) : List (String × Source × Node) :=
  [("src/lib.rs", ownCallText module, ownCallTree), (file, bareText "g", bareTree)]

/-- The call as it is written. -/
def ownCall (module : String) : WrittenCall :=
  ⟨[⟨.function, "f"⟩], .path ["crate", module] "g", ownCallExpression, false⟩

/-- The call as it is recorded. -/
def ownCallSite (module : String) : CallSite :=
  (ownCall module).site "src/lib.rs" (ownCallText module)
    (FileCalls.extract "src/lib.rs" (ownCallText module) ownCallTree).imports

theorem written_ownCall {module : String} (h : module ∈ ["core", "util"]) :
    Written (ownCallText module) ownCallTree (ownCall module) := by
  have htext : enterable? (ownCallText module) (ownCallTree.children.headD ownCallTree) = some "f" ∧
      pathSegments (ownCallText module) ((ownCallExpression.child? "function").getD ownCallTree) =
        ["crate", module] ++ ["g"] := by
    rcases List.mem_pair.mp h with rfl | rfl <;> decide +kernel
  obtain ⟨hname, hsegments⟩ := htext
  have hbody : BodyAt (ownCallTree.children.headD ownCallTree).children 1
      (.mk (.other "block") 7 27 (some "body") true false [ownCallExpression]) :=
    .second [] (by decide) rfl
  have hreached : Reached callStops (ownCallText module) ownCallTree
      ⟨[0, 1, 0], [⟨.function, "f"⟩], none, [], ownCallExpression⟩ := by
    refine ⟨0, _, rfl, rfl, .tail (.single (.function rfl hname hbody)) ?_⟩
    exact .through (by decide) (by decide) rfl rfl
  exact .expression hreached rfl (.path (.plain rfl (by decide)) (by decide) hsegments)

theorem own_path_leaves_iff_sample :
    ∃ graph, FileFacts.graph (FileFacts.ofTrees (ownCallFiles "util" "src/a.rs")) = .ok graph ∧
      (∃ s ∈ graph.catalog.symbols, s.name = "g") ∧ ownCallSite "util" ∉ graph.external ∧
      ∃ key, graph.catalog.Leads (ownCallSite "util") key := by
  obtain ⟨graph, hgraph⟩ :
      ∃ graph, FileFacts.graph (FileFacts.ofTrees (ownCallFiles "util" "src/a.rs")) = .ok graph := ⟨_, rfl⟩
  have hcatalog := (CallGraph.records_build hgraph).catalog_eq
  obtain ⟨own, r, hown, -, hexternal, hiff, hleads⟩ :=
    own_path_leaves_iff hgraph (List.mem_cons_self ..) (written_ownCall (by decide)) rfl (by decide) rfl
  have hnamed : ∃ s ∈ graph.catalog.symbols, s.name = "g" := by
    rw [hcatalog]
    decide +kernel
  have hstays : r ≠ .external := by
    intro hr
    obtain ⟨root, hroot, hhead⟩ := (hiff.mp hr).2
    obtain rfl : ["util", "g"] = own := Option.some.inj hown
    rw [hcatalog] at hhead
    revert root
    decide +kernel
  exact ⟨graph, hgraph, hnamed, fun h => hstays (hexternal.mp h), hleads hstays hnamed⟩

/-- A module of the project may be named like a crate outside of it: the call `crate::core::g()` leaves the project,
and the function `g` below the module `core`, which the module could pass on, is not reached by it. -/
theorem own_path_leaves :
    ∃ graph, FileFacts.graph (FileFacts.ofTrees (ownCallFiles "core" "src/core/a.rs")) = .ok graph ∧
      Written (ownCallText "core") ownCallTree (ownCall "core") ∧
      (ownCall "core").callee = .path ["crate", "core"] "g" ∧
      (∃ s ∈ graph.catalog.symbols, s.name = "g") ∧
      graph.catalog.resolve (ownCallSite "core") = .ok .external ∧ ownCallSite "core" ∈ graph.external ∧
      ∀ key, ¬ graph.catalog.Leads (ownCallSite "core") key := by
  obtain ⟨graph, hgraph⟩ :
      ∃ graph, FileFacts.graph (FileFacts.ofTrees (ownCallFiles "core" "src/core/a.rs")) = .ok graph := ⟨_, rfl⟩
  have hcatalog := (CallGraph.records_build hgraph).catalog_eq
  have hwritten := @written_ownCall "core" (by decide)
  have hresolve : graph.catalog.resolve (ownCallSite "core") = .ok .external := by
    rw [hcatalog]
    decide +kernel
  have hmem : ownCallSite "core" ∈ graph.external := by
    rw [CallGraph.external_build hgraph, ← hcatalog, List.mem_filter, decide_eq_true_iff]
    exact ⟨List.mem_flatMap.mpr ⟨_, List.mem_cons_self .., hwritten.mem_calls⟩, hresolve⟩
  refine ⟨graph, hgraph, hwritten, rfl, ?_, hresolve, hmem, fun key => Catalog.not_leads_of_external hresolve⟩
  rw [hcatalog]
  decide +kernel

end Deadwood
