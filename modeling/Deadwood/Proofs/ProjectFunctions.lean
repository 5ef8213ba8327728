/-
The functions of a project, and which of several declarations counts.

Files with different names declare different keys, so the catalog of a project has the
functions of each file as the file has them.  Within a file the first declaration of a
path is recorded and the later ones are not, but the calls of all of them are.  Hence

* **`FileSymbols.exists_isFirst`** — every declaration shares its path with a first one,
  which is recorded;
* **`FileFacts.mem_catalog_iff`** — the functions of the catalog that lie in a file are
  those of the file;
* **`first_declaration_decides`** — of several declarations of a path the first decides
  whether they are an entry point; if it is, nothing that any of them calls is dead;
* **`later_root_dead`** — while a later one that would be an entry point may be dead.
-/
import Deadwood.Proofs.Callers
import Deadwood.Proofs.FileOrder

namespace Deadwood

open Syntax (Node Source)
open ModulePath (isModuleBody)

/-! ### First declarations -/

namespace FileSymbols

/-- Every sound declaration shares its path with a first one, which the file records. -/
theorem exists_isFirst {file : String} {source : Source} {root : Node} {s : Symbol}
    (h : .sound s ∈ (declarations file source root).map (·.outcome file source)) :
    ∃ first recorded, IsFirst ((declarations file source root).map (·.outcome file source)) first ∧
      recorded ∈ (extract file source root).symbols ∧ recorded = { first with order := recorded.order } ∧
      recorded.fullPath = s.fullPath := by
  obtain ⟨recorded, hrecorded, hpath⟩ := List.mem_map.mp (fullPath_mem_foldl h)
  obtain ⟨first, hfirst, heq⟩ := isFirst_of_mem_foldl hrecorded
  rw [symbols_extract]
  exact ⟨first, recorded, hfirst, hrecorded, heq, hpath⟩

end FileSymbols

/-! ### The catalog of a project -/

namespace FileFacts

variable {files : List (String × Source × Node)}

theorem nodup_key_ofTrees (hfiles : (files.map (·.1)).Nodup) :
    (((ofTrees files).flatMap fun file => file.symbols.symbols).map (·.key)).Nodup := by
  refine nodup_key_of_files (fun facts hfacts => ?_) ?_
  · obtain ⟨entry, -, rfl⟩ := List.mem_map.mp hfacts
    exact ⟨entry.2.1, entry.2.2, rfl⟩
  · rw [ofTrees, List.map_map]
    exact hfiles

/-- The functions of the catalog that lie in a file are the functions of that file. -/
theorem mem_catalog_iff (hfiles : (files.map (·.1)).Nodup) {graph' : CallGraph}
    (hgraph : graph (ofTrees files) = .ok graph')
    {file : String} {source : Source} {root : Node} (hfile : (file, source, root) ∈ files) {s : Symbol} :
    s ∈ graph'.catalog.symbols ∧ s.file = file ↔ s ∈ (FileSymbols.extract file source root).symbols := by
  rw [(CallGraph.records_build hgraph).catalog_eq, Catalog.symbols_ofProject_of_nodup (nodup_key_ofTrees hfiles),
    List.mem_flatMap]
  constructor
  · rintro ⟨⟨facts, hfacts, hs⟩, rfl⟩
    obtain ⟨entry, hentry, rfl⟩ := List.mem_map.mp hfacts
    -- Only one file has that name.
    obtain rfl : entry = (s.file, source, root) :=
      List.inj_on_of_nodup_map hfiles hentry hfile (FileSymbols.file_of_mem_symbols hs).symm
    exact hs
  · intro hs
    exact ⟨⟨_, List.mem_map_of_mem hfile, hs⟩, FileSymbols.file_of_mem_symbols hs⟩

end FileFacts

/-- What an analysis does: it refuses a file, or goes on with the facts of all files. -/
theorem analyzeWith_eq (parse : Source → Node) (sources : OrderedMap String Source) (policy : Policy) (strict : Bool)
    {workers : Option Int} (hworkers : checkWorkers workers = .ok ()) :
    analyzeWith parse sources policy strict workers =
      (FileFacts.refusal? parse strict sources.entries).elim
        ((Outcome.ofFacts (FileFacts.ofSources parse sources.entries) policy).mapError .resolution)
        fun error => .error (.malformed error) := by
  rw [analyzeWith, hworkers, FileFacts.readAll_eq]
  cases FileFacts.refusal? parse strict sources.entries with
  | none => rfl
  | some error => rfl

/-- The outcome of an analysis is that of the facts of all files. -/
theorem ofFacts_of_analyzeWith {parse : Source → Node} {sources : OrderedMap String Source} {policy : Policy}
    {strict : Bool} {workers : Option Int} {outcome : Outcome}
    (h : analyzeWith parse sources policy strict workers = .ok outcome) :
    Outcome.ofFacts (FileFacts.ofSources parse sources.entries) policy = .ok outcome := by
  cases hworkers : checkWorkers workers with
  | error error => simp [analyzeWith, hworkers, bind, Except.bind] at h
  | ok _ =>
    rw [analyzeWith_eq parse sources policy strict hworkers] at h
    cases hrefused : FileFacts.refusal? parse strict sources.entries with
    | some error => simp [hrefused] at h
    | none =>
      cases hall : Outcome.ofFacts (FileFacts.ofSources parse sources.entries) policy with
      | error error => simp [hrefused, hall, Except.mapError] at h
      | ok found =>
        simp only [hrefused, hall, Option.elim_none, Except.mapError, Except.ok.injEq] at h
        rw [h]

theorem Outcome.ofFacts_eq_ok_iff {facts : List FileFacts} {policy : Policy} {outcome : Outcome} :
    Outcome.ofFacts facts policy = .ok outcome ↔
      ∃ graph, FileFacts.graph facts = .ok graph ∧
        outcome =
          { verdict := graph.verdict policy, diagnostics := FileFacts.diagnostics facts, graph := some graph } := by
  rw [Outcome.ofFacts]
  cases FileFacts.graph facts with
  | error error => simp [bind, Except.bind]
  | ok graph => simp [bind, Except.bind, pure, Except.pure, eq_comm]

/-- What an analysis with an outcome has done: it has read all files, and judged the graph of them. -/
theorem graph_of_analyzeWith {parse : Source → Node} {sources : OrderedMap String Source} {policy : Policy}
    {strict : Bool} {workers : Option Int} {outcome : Outcome}
    (h : analyzeWith parse sources policy strict workers = .ok outcome) :
    ∃ graph, FileFacts.graph (FileFacts.ofSources parse sources.entries) = .ok graph ∧
      outcome.graph = some graph ∧ outcome.verdict = graph.verdict policy := by
  obtain ⟨graph, hgraph, rfl⟩ := Outcome.ofFacts_eq_ok_iff.mp (ofFacts_of_analyzeWith h)
  exact ⟨graph, hgraph, rfl, rfl⟩

/-! ### Entry points -/

namespace CallGraph

variable {calls : List CallSite} {graph : CallGraph} {policy : Policy}

/-- Nothing that is reached is dead. -/
theorem not_dead_of_reachable {key : Key} (h : key ∈ (graph.verdict policy).reachable) :
    ∀ s ∈ (graph.verdict policy).dead, s.key ≠ key := by
  rintro s hs rfl
  rw [dead_eq, Catalog.mem_inReportOrder] at hs
  rw [reachable_verdict] at h
  exact (mem_condemned.mp hs).2.2 h

/-- What a function that is reached calls is reached; so is all that the body of a module calls. -/
theorem Records.reachable_of_leads (h : Records graph.catalog calls graph) {call : CallSite} (hcall : call ∈ calls)
    (hcaller : callerKey call ∈ (graph.verdict policy).reachable) {key : Key} (hleads : graph.catalog.Leads call key) :
    key ∈ (graph.verdict policy).reachable := by
  rw [reachable_verdict] at hcaller ⊢
  refine h.mem_reachable_iff.mpr ?_
  cases hbody : isModuleBody call.enclosing with
  | true => exact ⟨key, Or.inr ⟨call, hcall, hbody, hleads⟩, .refl⟩
  | false =>
    obtain ⟨start, hentry, hchain⟩ := h.mem_reachable_iff.mp hcaller
    exact ⟨start, hentry, hchain.tail ⟨call, hcall, hbody, rfl, hleads⟩⟩

end CallGraph

/-- **The first declaration of a path decides.**  Let a file of an analysed project declare a function without an
error, for the first time or again under a path that it has declared before.  The function is a root exactly if the
first declaration of its path is an entry point by itself or the body of a module calls it.  If the first declaration
is an entry point, then the function is reached, and so is all that the calls in any of the declarations lead to;
none of these is dead. -/
theorem first_declaration_decides {parse : Source → Node} {sources : OrderedMap String Source}
    (hfiles : (sources.entries.map (·.1)).Nodup) {policy : Policy} {strict : Bool} {workers : Option Int}
    {outcome : Outcome} (h : analyzeWith parse sources policy strict workers = .ok outcome) {file : String}
    {source : Source} (hfile : (file, source) ∈ sources.entries) {declaration : Declaration}
    (hdeclared : declaration ∈ declarations file source (parse source)) {s : Symbol}
    (hsound : declaration.outcome file source = .sound s) :
    ∃ graph first, outcome.graph = some graph ∧
      FileSymbols.IsFirst ((declarations file source (parse source)).map (·.outcome file source)) first ∧
      first.key = s.key ∧
      (s.key ∈ outcome.verdict.roots ↔ policy.isRoot first = true ∨
        ∃ call ∈ (FileFacts.ofSources parse sources.entries).flatMap fun facts => facts.calls.calls,
          isModuleBody call.enclosing = true ∧ graph.catalog.Leads call s.key) ∧
      (policy.isRoot first = true →
        s.key ∈ outcome.verdict.reachable ∧ (∀ t ∈ outcome.verdict.dead, t.key ≠ s.key) ∧
        ∀ call ∈ (FileCalls.extract file source (parse source)).calls, call.enclosing = s.fullPath →
          ∀ key, graph.catalog.Leads call key →
            key ∈ outcome.verdict.reachable ∧ ∀ t ∈ outcome.verdict.dead, t.key ≠ key) := by
  obtain ⟨graph, hgraph, houtcome, hverdict⟩ := graph_of_analyzeWith h
  rw [hverdict]
  have hcatalog := (CallGraph.records_build hgraph).catalog_eq
  have hrecords : CallGraph.Records graph.catalog
      ((FileFacts.ofSources parse sources.entries).flatMap fun facts => facts.calls.calls) graph :=
    hcatalog ▸ CallGraph.records_build hgraph
  have hmem : .sound s ∈ (declarations file source (parse source)).map (·.outcome file source) :=
    List.mem_map.mpr ⟨declaration, hdeclared, hsound⟩
  obtain ⟨first, recorded, hfirst, hrecorded, heq, hpath⟩ := FileSymbols.exists_isFirst hmem
  -- The catalog has the recorded function, and no other with its key.
  have hkey : recorded.key = s.key := by
    rw [Symbol.key, Symbol.key, hpath, FileSymbols.file_of_mem_symbols hrecorded, FileSymbols.file_of_sound hmem]
  have hknown : recorded ∈ graph.catalog.symbols := by
    rw [hcatalog, Catalog.symbols_ofProject_of_nodup (FileFacts.nodup_key_ofSources hfiles)]
    exact List.mem_flatMap.mpr ⟨_, List.mem_map_of_mem hfile, hrecorded⟩
  have hroot : policy.isRoot recorded = policy.isRoot first := by
    rw [heq]
    rfl
  have hsame : (∃ t ∈ graph.catalog.symbols, t.key = s.key ∧ policy.isRoot t = true) ↔
      policy.isRoot first = true := by
    constructor
    · rintro ⟨t, ht, htkey, htroot⟩
      rw [← hroot, ← Catalog.eq_of_key_eq ht hknown (htkey.trans hkey.symm)]
      exact htroot
    · exact fun hr => ⟨recorded, hknown, hkey, hroot.trans hr⟩
  have hroots : s.key ∈ (graph.verdict policy).roots ↔ CallGraph.Entry graph.catalog
      ((FileFacts.ofSources parse sources.entries).flatMap (·.calls.calls)) policy s.key := by
    rw [CallGraph.roots_verdict]
    exact hrecords.mem_roots_iff
  refine ⟨graph, first, houtcome, hfirst, ?_, hroots.trans (or_congr_left hsame), fun hfirstRoot => ?_⟩
  · rw [← hkey, heq]
    rfl
  · have hreached : s.key ∈ (graph.verdict policy).reachable := by
      rw [CallGraph.reachable_verdict]
      exact hrecords.mem_reachable_iff.mpr ⟨s.key, Or.inl (hsame.mpr hfirstRoot), .refl⟩
    refine ⟨hreached, CallGraph.not_dead_of_reachable hreached, fun call hcall henclosing key hleads => ?_⟩
    have hcaller : CallGraph.callerKey call = s.key := by
      rw [CallGraph.callerKey, Symbol.key, henclosing, file_of_mem_calls hcall, FileSymbols.file_of_sound hmem]
    have hall : call ∈ (FileFacts.ofSources parse sources.entries).flatMap fun facts => facts.calls.calls :=
      List.mem_flatMap.mpr ⟨_, List.mem_map_of_mem hfile, hcall⟩
    have hkeyReached := hrecords.reachable_of_leads hall (hcaller ▸ hreached) hleads
    exact ⟨hkeyReached, CallGraph.not_dead_of_reachable hkeyReached⟩

/-- The text `impl T for S { fn m() {} } impl S { fn m() { g() } } fn g() {}`. -/
def traitFirstText : Source :=
  .ofText "impl T for S \x7b fn m() \x7b\x7d \x7d impl S \x7b fn m() \x7b g() \x7d \x7d fn g() \x7b\x7d"

/-- Its tree: the method of a trait, then another of the same path, which calls a function. -/
def traitFirstTree : Node :=
  .mk (.other "source_file") 0 62 none true false [
    .mk .implItem 0 26 none true false [
      .mk .typeIdentifier 5 6 (some "trait") true false [],
      .mk .typeIdentifier 11 12 (some "type") true false [],
      .mk (.other "declaration_list") 13 26 (some "body") true false [
        .mk .functionItem 15 24 none true false [
          .mk .identifier 18 19 (some "name") true false [],
          .mk (.other "block") 22 24 (some "body") true false []]]],
    .mk .implItem 27 52 none true false [
      .mk .typeIdentifier 32 33 (some "type") true false [],
      .mk (.other "declaration_list") 34 52 (some "body") true false [
        .mk .functionItem 36 50 none true false [
          .mk .identifier 39 40 (some "name") true false [],
          .mk (.other "block") 43 50 (some "body") true false [
            .mk .callExpression 45 48 none true false [
              .mk .identifier 45 46 (some "function") true false []]]]]],
    .mk .functionItem 53 62 none true false [
      .mk .identifier 56 57 (some "name") true false [],
      .mk (.other "block") 60 62 (some "body") true false []]]

/-- The method of the trait in that tree. -/
def traitMethod : Symbol :=
  { name := "m", fullPath := "S::m", visibility := .inModule, file := "src/lib.rs", span := ⟨1, 16, 1, 25⟩,
    kind := .method, owner := some "S", traitName := some "T" }

/-- The other method of the same path. -/
def plainMethod : Symbol :=
  { traitMethod with span := ⟨1, 37, 1, 51⟩, traitName := none }

/-- The call in the other method. -/
def plainMethodCall : CallSite :=
  { callee := "g", file := "src/lib.rs", span := ⟨1, 46, 1, 49⟩, enclosing := "S::m", resolved := some "g" }

theorem first_declaration_decides_sample :
    ∃ outcome, analyzeWith (fun _ => traitFirstTree) ⟨[("src/lib.rs", traitFirstText)]⟩ {} false none = .ok outcome ∧
      ({} : Policy).isRoot plainMethod = false ∧ plainMethod.key ∈ outcome.verdict.reachable ∧
      ⟨"src/lib.rs", "g"⟩ ∈ outcome.verdict.reachable := by
  obtain ⟨outcome, hok⟩ : ∃ outcome,
      analyzeWith (fun _ => traitFirstTree) ⟨[("src/lib.rs", traitFirstText)]⟩ {} false none = .ok outcome := ⟨_, rfl⟩
  have houtcomes : ∃ free, (declarations "src/lib.rs" traitFirstText traitFirstTree).map
      (·.outcome "src/lib.rs" traitFirstText) = [.sound traitMethod, .sound plainMethod, free] := ⟨_, rfl⟩
  obtain ⟨free, houtcomes⟩ := houtcomes
  have hlater : .sound plainMethod ∈ (declarations "src/lib.rs" traitFirstText traitFirstTree).map
      (·.outcome "src/lib.rs" traitFirstText) := by
    rw [houtcomes]
    simp
  obtain ⟨declaration, hdeclared, hsound⟩ := List.mem_map.mp hlater
  obtain ⟨graph, first, hgraph, hfirst, hkey, -, hroot⟩ :=
    first_declaration_decides (by decide) hok List.mem_cons_self hdeclared hsound
  -- The method of the trait comes first.
  obtain rfl : first = traitMethod := by
    refine hfirst.unique ?_ (congrArg Key.path hkey)
    rw [houtcomes]
    exact ⟨[], _, rfl, by simp⟩
  obtain ⟨hreached, -, hcalls⟩ := hroot (by decide)
  have hcall : plainMethodCall ∈ (FileCalls.extract "src/lib.rs" traitFirstText traitFirstTree).calls := by
    decide +kernel
  have hleads : graph.catalog.Leads plainMethodCall ⟨"src/lib.rs", "g"⟩ := by
    obtain ⟨graph', hgraph', hsome, -⟩ := graph_of_analyzeWith hok
    obtain rfl : graph = graph' := Option.some.inj (hgraph.symm.trans hsome)
    have hresolve : graph.catalog.resolve plainMethodCall = .ok (.linked .exact [⟨"src/lib.rs", "g"⟩]) := by
      rw [(CallGraph.records_build hgraph').catalog_eq]
      rfl
    exact (Catalog.leads_of_linked hresolve).mpr (List.mem_singleton.mpr rfl)
  exact ⟨outcome, hok, by decide, hreached, (hcalls _ hcall rfl _ hleads).1⟩

/-- The text `impl S { fn m() {} } impl T for S { fn m() {} }`. -/
def traitLaterText : Source :=
  .ofText "impl S \x7b fn m() \x7b\x7d \x7d impl T for S \x7b fn m() \x7b\x7d \x7d"

/-- Its tree: a method, then the method of a trait with the same path. -/
def traitLaterTree : Node :=
  .mk (.other "source_file") 0 47 none true false [
    .mk .implItem 0 20 none true false [
      .mk .typeIdentifier 5 6 (some "type") true false [],
      .mk (.other "declaration_list") 7 20 (some "body") true false [
        .mk .functionItem 9 18 none true false [
          .mk .identifier 12 13 (some "name") true false [],
          .mk (.other "block") 16 18 (some "body") true false []]]],
    .mk .implItem 21 47 none true false [
      .mk .typeIdentifier 26 27 (some "trait") true false [],
      .mk .typeIdentifier 32 33 (some "type") true false [],
      .mk (.other "declaration_list") 34 47 (some "body") true false [
        .mk .functionItem 36 45 none true false [
          .mk .identifier 39 40 (some "name") true false [],
          .mk (.other "block") 43 45 (some "body") true false []]]]]

/-- The two methods have one path, so the method of the trait is not recorded, although it would be an entry point by
itself.  It is dead. -/
theorem later_root_dead :
    ∃ outcome, ∃ declaration ∈ declarations "src/lib.rs" traitLaterText traitLaterTree, ∃ s,
      analyzeWith (fun _ => traitLaterTree) ⟨[("src/lib.rs", traitLaterText)]⟩ {} false none = .ok outcome ∧
      declaration.outcome "src/lib.rs" traitLaterText = .sound s ∧ ({} : Policy).isRoot s = true ∧
      s.key ∉ outcome.verdict.reachable ∧ ∃ t ∈ outcome.verdict.dead, t.key = s.key := by
  obtain ⟨outcome, hok⟩ : ∃ outcome,
      analyzeWith (fun _ => traitLaterTree) ⟨[("src/lib.rs", traitLaterText)]⟩ {} false none = .ok outcome := ⟨_, rfl⟩
  obtain ⟨first, later, houtcomes, hroot, hkey⟩ : ∃ first later,
      (declarations "src/lib.rs" traitLaterText traitLaterTree).map (·.outcome "src/lib.rs" traitLaterText) =
        [.sound first, .sound later] ∧
      ({} : Policy).isRoot later = true ∧ later.key = ⟨"src/lib.rs", "S::m"⟩ :=
    ⟨_, _, rfl, by decide +kernel, by decide +kernel⟩
  have hlater : .sound later ∈ (declarations "src/lib.rs" traitLaterText traitLaterTree).map
      (·.outcome "src/lib.rs" traitLaterText) := by
    rw [houtcomes]
    simp
  obtain ⟨declaration, hdeclared, hsound⟩ := List.mem_map.mp hlater
  obtain ⟨graph, hgraph, -, hverdict⟩ := graph_of_analyzeWith hok
  have hrecords := CallGraph.records_build hgraph
  have hsymbols : (∀ t ∈ graph.catalog.symbols, ({} : Policy).isRoot t = false) ∧
      ∃ t ∈ graph.catalog.symbols, ({} : Policy).ignores t = false ∧ t.key = ⟨"src/lib.rs", "S::m"⟩ := by
    rw [hrecords.catalog_eq]
    decide +kernel
  obtain ⟨hplain, t, ht, hshown, htkey⟩ := hsymbols
  -- There is no entry, since there are no calls and the one function that is recorded is none.
  have hnone : later.key ∉ (graph.verdict {}).reachable := by
    intro hreached
    rw [CallGraph.reachable_verdict] at hreached
    obtain ⟨start, hentry, -⟩ := hrecords.mem_reachable_iff.mp hreached
    rcases hentry with ⟨u, hu, -, huroot⟩ | ⟨call, hcall, -⟩
    · rw [← hrecords.catalog_eq] at hu
      exact absurd huroot (by simp [hplain u hu])
    · exact absurd hcall List.not_mem_nil
  rw [hkey] at hnone
  refine ⟨outcome, declaration, hdeclared, later, hok, hsound, hroot, ?_⟩
  rw [hverdict, hkey]
  refine ⟨hnone, t, ?_, htkey⟩
  rw [CallGraph.reachable_verdict] at hnone
  rw [CallGraph.dead_eq, Catalog.mem_inReportOrder]
  exact CallGraph.mem_condemned.mpr ⟨ht, hshown, htkey ▸ hnone⟩

end Deadwood
