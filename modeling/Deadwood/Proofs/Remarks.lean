/-
What is reported of the syntax errors in a file.

The walk for declarations and the walk for calls both report the broken function items that
they meet, and an error that none of these explains.  The main statements are

* **`FileSymbols.diagnostics_extract`**, **`FileCalls.diagnostics_extract`** — what each of them
  reports, as the same function of the broken function items on its walk (`remarks`);
* **`brokenItems_eq`** — the walks meet the same broken function items in the same order, unless
  a function item is hidden in an attribute or a use declaration, where only one of them looks;
* **`FileFacts.diagnostics_of_plain`** — so an analysis reports of several files what the walk for
  declarations reports, each finding once.
-/
import Deadwood.Proofs.CallExpressions
import Deadwood.Proofs.Faults
import Deadwood.Proofs.FunctionItems
import Deadwood.Proofs.ProjectFunctions

namespace Deadwood

open Syntax

/-! ### Broken function items -/

/-- Whether a visited node is a function item that cannot be entered. -/
def Visit.isBroken (source : Source) (v : Visit) : Bool :=
  decide (v.node.kind = .functionItem) && (enterable? source v.node).isNone

/-- The broken function items that a walk from a root meets. -/
def brokenItems (closed : List Kind) (source : Source) (root : Node) : List Visit :=
  (walk closed source root).filter (·.isBroken source)

/-- What is reported of a file, given its broken function items. -/
def remarks (file : String) (source : Source) (root : Node) (broken : List Visit) : List Diagnostic :=
  if root.hasError ∧ broken = [] then [.outsideFunctions file source root] else broken.map (·.skipped file source)

theorem Accounted.broken_eq {base : List String} {source : Source} {met firsts repeated broken : List Visit}
    (h : Accounted base source met firsts repeated broken) :
    broken = met.filter fun v => (v.path? base source).isNone := by
  have hfirsts : firsts.filter (fun v => (v.path? base source).isNone) = [] := by
    refine List.filter_eq_nil_iff.mpr fun v hv => ?_
    obtain ⟨path, hpath, -⟩ := h.of_firsts v hv
    simp [hpath]
  have hrepeated : repeated.filter (fun v => (v.path? base source).isNone) = [] := by
    refine List.filter_eq_nil_iff.mpr fun v hv => ?_
    obtain ⟨path, hpath, -⟩ := h.of_repeated v hv
    simp [hpath]
  have hbroken : broken.filter (fun v => (v.path? base source).isNone) = broken := by
    refine List.filter_eq_self.mpr fun v hv => ?_
    rw [h.of_broken v hv]
    rfl
  -- The filtered list has the broken ones as a sublist, and has no more items than they are.
  have hsub := h.broken_in_order.filter fun v => (v.path? base source).isNone
  rw [hbroken] at hsub
  refine hsub.eq_of_length ?_
  rw [(h.each_once.filter _).length_eq, List.filter_append, List.filter_append, hfirsts, hrepeated, hbroken,
    List.nil_append, List.nil_append]

theorem FileSymbols.diagnostics_extract (file : String) (source : Source) (root : Node) :
    (extract file source root).diagnostics =
      remarks file source root (brokenItems declarationStops source root) := by
  obtain ⟨firsts, repeated, broken, hsettled⟩ := Settled.run file source (pairwise_functionItems source root)
  have hbroken : broken = brokenItems declarationStops source root := by
    rw [hsettled.accounted.broken_eq, functionItems, List.filter_filter, brokenItems]
    refine List.filter_congr fun v _ => ?_
    rw [Visit.isBroken, Visit.path?, Option.isNone_map, Bool.and_comm]
  rw [extract_eq, diagnostics_close, foundIn, hsettled.diagnostics, hbroken, remarks]
  simp only [List.map_eq_nil_iff]

theorem brokenDiagnostics_places (file : String) (source : Source) (base : List String) (v : Visit) :
    FileCalls.brokenDiagnostics file source (v.places source base) =
      if v.isBroken source then [v.skipped file source] else [] := by
  rw [FileCalls.brokenDiagnostics, Visit.places, placesHere, Visit.isBroken]
  split
  · rename_i kind
    rcases Option.eq_none_or_eq_some (enterable? source v.node) with hname | ⟨name, hname⟩
    · simp [hname, kind, Visit.skipped]
    · simp [hname]
  -- No other node is a broken function item.
  · simp_all
  · simp_all
  · simp_all
  · simp_all

theorem FileCalls.diagnostics_extract (file : String) (source : Source) (root : Node) :
    (extract file source root).diagnostics = remarks file source root (brokenItems callStops source root) := by
  have hbroken : brokenDiagnostics file source (places file source root) =
      (brokenItems callStops source root).map (·.skipped file source) := by
    calc brokenDiagnostics file source (places file source root)
        = (walk callStops source root).flatMap fun v =>
            brokenDiagnostics file source (v.places source (ModulePath.ofFile file)) := by
          rw [places_eq, brokenDiagnostics, List.filterMap_flatMap]
          rfl
      _ = (walk callStops source root).flatMap fun v =>
            if v.isBroken source then [v.skipped file source] else [] := by
          simp only [brokenDiagnostics_places]
      _ = (brokenItems callStops source root).map (·.skipped file source) := by
          rw [flatMap_ite_nil, List.map_eq_flatMap, brokenItems]
          simp
  rw [extract_eq, hbroken, remarks]
  simp

/-! ### The two walks meet the same function items -/

/-- No function item lies below an attribute or a use declaration. -/
def HidesNoFunction (root : Node) : Prop :=
  ∀ item ∈ root.preorder, item.kind ∈ [Kind.attributeItem, .useDeclaration] →
    ∀ node ∈ item.descendants, node.kind ≠ .functionItem

instance (root : Node) : Decidable (HidesNoFunction root) :=
  inferInstanceAs (Decidable (∀ item ∈ root.preorder, _ → _))

theorem HidesNoFunction.of_mem {root part : Node} (h : HidesNoFunction root) (hpart : part ∈ root.preorder) :
    HidesNoFunction part :=
  fun item hitem => h item (Node.mem_preorder_trans hitem root hpart)

/-- One step below a node, the walks differ only at attributes and use declarations. -/
theorem partVisits_eq_or (source : Source) (v : Visit) :
    partVisits declarationStops source v = partVisits callStops source v ∨
      v.node.kind ∈ [Kind.attributeItem, .useDeclaration] ∧ partVisits callStops source v = [] := by
  by_cases item : v.node.kind ∈ itemKinds
  · left
    rcases mem_itemKinds.mp item with kind | kind | kind
    · rw [partVisits_of_function kind, partVisits_of_function kind]
    · rw [partVisits_of_module kind, partVisits_of_module kind]
    · rw [partVisits_of_owner kind, partVisits_of_owner kind]
  · have hstops : v.node.kind ∈ callStops ↔
        v.node.kind ∈ declarationStops ∨ v.node.kind ∈ [Kind.attributeItem, .useDeclaration] := by
      simp only [callStops, declarationStops, List.mem_cons, List.not_mem_nil, or_false, or_assoc]
    rw [partVisits_of_plain item, partVisits_of_plain item]
    by_cases hhides : v.node.kind ∈ [Kind.attributeItem, .useDeclaration]
    · exact Or.inr ⟨hhides, if_pos (hstops.mpr (Or.inr hhides))⟩
    · left
      simp only [hstops, hhides, or_false]

theorem filter_visits_eq (source : Source) (v : Visit) (h : HidesNoFunction v.node) :
    (visits declarationStops source v).filter (·.isBroken source) =
      (visits callStops source v).filter (·.isBroken source) := by
  -- The induction is along the walk for declarations, which is the longer one.
  induction v using visit_induction declarationStops source with
  | step v ih =>
    have hbelow : ∀ u ∈ partVisits declarationStops source v, u.node ∈ v.node.descendants :=
      fun u hu => (mem_partVisits.mp hu).mem_descendants
    have hrest : ((partVisits declarationStops source v).flatMap (visits declarationStops source)).filter
          (·.isBroken source) =
        ((partVisits callStops source v).flatMap (visits callStops source)).filter (·.isBroken source) := by
      rcases partVisits_eq_or source v with hsame | ⟨hhides, hnone⟩
      · rw [← hsame, List.filter_flatMap, List.filter_flatMap]
        refine List.flatMap_congr fun u hu => ih u hu (h.of_mem ?_)
        exact Node.mem_preorder_of_mem_descendants (hbelow u hu)
      · -- Only the walk for declarations goes on here, and what it meets are no function items.
        rw [hnone, List.flatMap_nil, List.filter_nil]
        refine List.filter_eq_nil_iff.mpr fun w hw => ?_
        obtain ⟨u, hu, hw⟩ := List.mem_flatMap.mp hw
        have hin : w.node ∈ v.node.descendants :=
          Node.mem_preorderAmong_trans (mem_preorder_of_mem_visits hw) v.node.children (hbelow u hu)
        have hkind := h v.node (Node.mem_preorder_self _) hhides w.node hin
        simp [Visit.isBroken, hkind]
    rw [visits_eq, visits_eq, List.filter_cons, List.filter_cons, hrest]

theorem brokenItems_eq (source : Source) {root : Node} (h : HidesNoFunction root) :
    brokenItems declarationStops source root = brokenItems callStops source root := by
  rw [brokenItems, brokenItems, walk, walk, List.filter_flatMap, List.filter_flatMap]
  refine List.flatMap_congr fun v hv => filter_visits_eq source v (h.of_mem ?_)
  obtain ⟨i, node, hnode, -, rfl⟩ := mem_amongVisits_nil.mp hv
  exact Node.mem_preorder_of_mem_descendants
    (Node.mem_descendants_of_mem_children (List.mem_of_getElem? hnode) (Node.mem_preorder_self _))

/-! ### What is reported of several files -/

/-- What was named before is not named again. -/
theorem eraseDups_append_of_subset {α : Type} [DecidableEq α] {named again : List α} (h : again ⊆ named)
    (rest : List α) : (named ++ (again ++ rest)).eraseDups = (named ++ rest).eraseDups := by
  have hagain : again.filter (fun item => !named.elem item) = [] := by
    refine List.filter_eq_nil_iff.mpr fun item hitem => ?_
    simp [h hitem]
  rw [List.eraseDups_append, List.eraseDups_append, List.removeAll, List.removeAll, List.filter_append, hagain,
    List.nil_append]

theorem eraseDups_flatMap_twice {α β : Type} [DecidableEq β] (f : α → List β) (named : List β) (items : List α) :
    (named ++ items.flatMap fun item => f item ++ f item).eraseDups = (named ++ items.flatMap f).eraseDups := by
  induction items generalizing named with
  | nil => rfl
  | cons item rest ih =>
    -- The findings of the item count as named when they come for the second time.
    rw [List.flatMap_cons, List.flatMap_cons, List.append_assoc, ← List.append_assoc named,
      eraseDups_append_of_subset (List.subset_append_right named (f item)), ih, List.append_assoc]

/-- What is reported with the declarations of files, in the order of the files and each finding once. -/
def declarationReports (parse : Source → Node) (entries : List (String × Source)) : List Diagnostic :=
  (entries.flatMap fun entry => (FileSymbols.extract entry.1 entry.2 (parse entry.2)).diagnostics).eraseDups

namespace FileFacts

theorem diagnostics_of_plain {parse : Source → Node} {entries : List (String × Source)}
    (h : ∀ entry ∈ entries, HidesNoFunction (parse entry.2)) :
    diagnostics (ofSources parse entries) = declarationReports parse entries := by
  have htwice : ((ofSources parse entries).flatMap fun file => file.symbols.diagnostics ++ file.calls.diagnostics) =
      entries.flatMap fun entry => (FileSymbols.extract entry.1 entry.2 (parse entry.2)).diagnostics ++
        (FileSymbols.extract entry.1 entry.2 (parse entry.2)).diagnostics := by
    rw [ofSources, List.flatMap_map]
    refine List.flatMap_congr fun entry hentry => ?_
    dsimp only [ofTree]
    rw [FileSymbols.diagnostics_extract, FileCalls.diagnostics_extract, brokenItems_eq entry.2 (h entry hentry)]
  rw [diagnostics, htwice]
  exact eraseDups_flatMap_twice _ [] entries

end FileFacts

/-- A tolerant analysis has an outcome exactly if the calls can be linked. -/
theorem exists_outcome_iff (parse : Source → Node) (sources : OrderedMap String Source) (policy : Policy)
    {workers : Option Int} (hworkers : checkWorkers workers = .ok ()) :
    (∃ outcome, analyzeWith parse sources policy false workers = .ok outcome) ↔
      ∃ graph, FileFacts.graph (FileFacts.ofSources parse sources.entries) = .ok graph := by
  constructor
  · rintro ⟨outcome, hok⟩
    obtain ⟨graph, hgraph, -⟩ := graph_of_analyzeWith hok
    exact ⟨graph, hgraph⟩
  · rintro ⟨graph, hgraph⟩
    rw [analyzeWith_eq parse sources policy false hworkers, Outcome.ofFacts_eq_ok_iff.mpr ⟨graph, hgraph, rfl⟩]
    exact ⟨_, rfl⟩

/-- **Both walks report the same syntax errors.**  If no function item of a tree is hidden in an attribute or a use
declaration, the declarations and the calls of the file come with equal reports.  If this holds of all trees, several
files together are reported as the declarations of each are, in the order of the files and each finding once: this is
put together whether or not there is an outcome, there is one exactly if the calls can be linked, and every outcome
has it. -/
theorem reports_agree :
    (∀ (file : String) (source : Source) (root : Node), HidesNoFunction root →
      (FileSymbols.extract file source root).diagnostics = (FileCalls.extract file source root).diagnostics) ∧
    ∀ (parse : Source → Node) (sources : OrderedMap String Source),
      (∀ entry ∈ sources.entries, HidesNoFunction (parse entry.2)) →
      FileFacts.diagnostics (FileFacts.ofSources parse sources.entries) = declarationReports parse sources.entries ∧
      ∀ (policy : Policy) (workers : Option Int),
        (checkWorkers workers = .ok () →
          ((∃ outcome, analyzeWith parse sources policy false workers = .ok outcome) ↔
            ∃ graph, FileFacts.graph (FileFacts.ofSources parse sources.entries) = .ok graph)) ∧
        ∀ strict outcome, analyzeWith parse sources policy strict workers = .ok outcome →
          outcome.diagnostics = declarationReports parse sources.entries := by
  constructor
  · intro file source root h
    rw [FileSymbols.diagnostics_extract, FileCalls.diagnostics_extract, brokenItems_eq source h]
  · intro parse sources h
    have hreported := FileFacts.diagnostics_of_plain h
    refine ⟨hreported, fun policy workers => ⟨exists_outcome_iff parse sources policy, ?_⟩⟩
    intro strict outcome hok
    obtain ⟨graph, -, rfl⟩ := Outcome.ofFacts_eq_ok_iff.mp (ofFacts_of_analyzeWith hok)
    exact hreported

/-- The files `use a; #[cold] fn f() { = }` and `= fn g() {}`. -/
def faultyFiles : List (String × Source) :=
  [("src/a.rs", .ofText "use a; #[cold] fn f() \x7b = \x7d"), ("src/b.rs", .ofText "= fn g() \x7b\x7d")]

/-- A parser for them, which tells them apart by their length. -/
def faultyParse (source : Source) : Node :=
  if source.bytes.length == 11 then
    .mk (.other "source_file") 0 11 none true false [
      .mk .error 0 1 none true false [],
      .mk .functionItem 2 11 none true false [
        .mk .identifier 5 6 (some "name") true false [],
        .mk (.other "block") 9 11 (some "body") true false []]]
  else
    .mk (.other "source_file") 0 27 none true false [
      .mk .useDeclaration 0 6 none true false [
        .mk .identifier 4 5 (some "argument") true false []],
      .mk .attributeItem 7 14 none true false [
        .mk (.other "attribute") 9 13 none true false [
          .mk .identifier 9 13 none true false []]],
      .mk .functionItem 15 27 none true false [
        .mk .identifier 18 19 (some "name") true false [],
        .mk (.other "block") 22 27 (some "body") true false [
          .mk .error 24 25 none true false []]]]

theorem reports_agree_faulty :
    (∀ entry ∈ faultyFiles, HidesNoFunction (faultyParse entry.2)) ∧
      (∀ entry ∈ faultyFiles, (FileSymbols.extract entry.1 entry.2 (faultyParse entry.2)).diagnostics =
        (FileCalls.extract entry.1 entry.2 (faultyParse entry.2)).diagnostics) ∧
      ∃ outcome, analyzeWith faultyParse ⟨faultyFiles⟩ {} false none = .ok outcome ∧
        outcome.diagnostics = [⟨"src/a.rs", "skipped `f`: unexpected `=`", some 1⟩,
          ⟨"src/b.rs", "syntax error outside any function: unexpected `=`", some 1⟩] := by
  have hplain : ∀ entry ∈ faultyFiles, HidesNoFunction (faultyParse entry.2) := by decide +kernel
  refine ⟨hplain, fun entry hentry => reports_agree.1 _ _ _ (hplain entry hentry), ?_⟩
  obtain ⟨-, hrun⟩ := reports_agree.2 faultyParse ⟨faultyFiles⟩ hplain
  obtain ⟨hreturns, houtcome⟩ := hrun {} none
  obtain ⟨outcome, hok⟩ := (hreturns rfl).mpr ⟨_, rfl⟩
  refine ⟨outcome, hok, ?_⟩
  rw [houtcome false outcome hok]
  decide +kernel

end Deadwood
