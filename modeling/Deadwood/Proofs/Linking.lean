/-
What a call graph records of the calls it was built from.

`Records catalog calls graph` says what a graph holds after a list of calls has
been entered: the edges, the functions called from the body of a module and the
unresolved calls, each in terms of the calls themselves.  One call extends the
record (`Records.link`), hence a run does (`build_induction`), and

* **`records_build`** — a built graph records exactly its calls;
* **`build_ok_iff`** — it is built if no call fails to resolve;
* **`resolution_classified`** — what the resolution of a call in a built graph can
  be, and which functions it can name.
-/
import Deadwood.Proofs.Closure
import Deadwood.Proofs.Computations
import Deadwood.Proofs.Resolution

namespace Deadwood

namespace Catalog

variable {catalog : Catalog} {call : CallSite} {key : Key}

/-- A function is among those that a call may reach. -/
def Leads (catalog : Catalog) (call : CallSite) (key : Key) : Prop :=
  ∃ r targets, catalog.resolve call = .ok r ∧ r.targets? = some targets ∧ key ∈ targets

theorem leads_of_linked {rule : LinkRule} {targets : List Key}
    (h : catalog.resolve call = .ok (.linked rule targets)) : catalog.Leads call key ↔ key ∈ targets := by
  constructor
  · rintro ⟨r, targets', hr, htargets, hkey⟩
    obtain rfl : Resolution.linked rule targets = r := Except.ok.inj (h.symm.trans hr)
    obtain rfl : targets = targets' := Option.some.inj htargets
    exact hkey
  · exact fun hkey => ⟨_, targets, h, rfl, hkey⟩

theorem not_leads_of_external (h : catalog.resolve call = .ok .external) : ¬ catalog.Leads call key := by
  rintro ⟨r, targets, hr, htargets, -⟩
  obtain rfl : Resolution.external = r := Except.ok.inj (h.symm.trans hr)
  exact absurd htargets (by simp [Resolution.targets?])

theorem not_leads_of_unresolved (h : catalog.resolve call = .ok .unresolved) : ¬ catalog.Leads call key := by
  rintro ⟨r, targets, hr, htargets, hkey⟩
  obtain rfl : Resolution.unresolved = r := Except.ok.inj (h.symm.trans hr)
  obtain rfl : [] = targets := Option.some.inj htargets
  exact absurd hkey List.not_mem_nil

/-- A call leads to functions of the catalog only. -/
theorem Leads.mem_keys (h : catalog.Leads call key) : key ∈ catalog.keys := by
  obtain ⟨r, targets, hr, htargets, hkey⟩ := id h
  cases r with
  | external => exact absurd h (not_leads_of_external hr)
  | unresolved => exact absurd h (not_leads_of_unresolved hr)
  | linked rule targets' => exact (resolves_of_resolve hr).mem_keys ((leads_of_linked hr).mp h)

end Catalog

namespace CallGraph

open ModulePath (isModuleBody)

variable {catalog : Catalog} {graph graph' : CallGraph} {call : CallSite}

/-! ### One call -/

theorem foldl_addEdge (source : Key) (targets : List Key) (graph : CallGraph) :
    targets.foldl (fun graph target => graph.addEdge source target) graph =
      { graph with
        edges := (targets.map (source, ·)).foldl (fun edges edge => Digraph.adjoin edge edges) graph.edges } := by
  induction targets generalizing graph with
  | nil => rfl
  | cons target rest ih =>
    rw [List.foldl_cons, ih]
    rfl

theorem link_cases (h : graph.link call = .ok graph') :
    (graph.catalog.resolve call = .ok .external ∧ graph' = { graph with external := graph.external ++ [call] }) ∨
    (graph.catalog.resolve call = .ok .unresolved ∧
      graph' = { graph with unresolved := graph.unresolved ++ [call] }) ∨
    ∃ rule targets, graph.catalog.resolve call = .ok (.linked rule targets) ∧
      graph' = graph.addTargets call targets := by
  rw [link] at h
  cases hr : graph.catalog.resolve call with
  | error e =>
    rw [hr] at h
    exact absurd h (by simp [bind, Except.bind])
  | ok r =>
    rw [hr] at h
    cases r with
    | external => exact Or.inl ⟨rfl, (Except.ok.inj h).symm⟩
    | unresolved => exact Or.inr (Or.inl ⟨rfl, (Except.ok.inj h).symm⟩)
    | linked rule targets => exact Or.inr (Or.inr ⟨rule, targets, rfl, (Except.ok.inj h).symm⟩)

theorem link_ok_of_resolve {r : Resolution} (h : graph.catalog.resolve call = .ok r) :
    ∃ graph', graph.link call = .ok graph' := by
  rw [link, h]
  exact ⟨_, rfl⟩

/-- A resolved call is entered with its targets, whatever becomes of them, and changes none of the other lists of
calls. -/
theorem addTargets_frame (graph : CallGraph) (call : CallSite) (targets : List Key) :
    (graph.addTargets call targets).catalog = graph.catalog ∧
      (graph.addTargets call targets).resolutions = graph.resolutions ++ [(call, targets)] ∧
      (graph.addTargets call targets).unresolved = graph.unresolved ∧
      (graph.addTargets call targets).external = graph.external := by
  rw [addTargets]
  split
  · exact ⟨rfl, rfl, rfl, rfl⟩
  · split
    · rw [foldl_addEdge]
      exact ⟨rfl, rfl, rfl, rfl⟩
    · exact ⟨rfl, rfl, rfl, rfl⟩

/-- The edges that a resolved call adds lead from its caller to its targets. -/
theorem mem_edges_addTargets {targets : List Key} {a b : Key} :
    (a, b) ∈ (graph.addTargets call targets).edges ↔
      (a, b) ∈ graph.edges ∨
        isModuleBody call.enclosing = false ∧ callerKey call = a ∧ a ∈ graph.catalog.keys ∧ b ∈ targets := by
  rw [addTargets]
  by_cases hbody : isModuleBody call.enclosing = true
  · rw [if_pos hbody]
    simp [hbody]
  · rw [if_neg hbody, Bool.not_eq_true] at *
    by_cases hcaller : graph.catalog.contains (callerKey call) = true
    · rw [if_pos hcaller, foldl_addEdge, Digraph.mem_foldl_adjoin, List.mem_map]
      rw [Catalog.contains_iff] at hcaller
      constructor
      · rintro (h | ⟨target, htarget, heq⟩)
        · exact Or.inl h
        · obtain ⟨rfl, rfl⟩ := Prod.mk.inj heq
          exact Or.inr ⟨hbody, rfl, hcaller, htarget⟩
      · rintro (h | ⟨-, rfl, -, htarget⟩)
        · exact Or.inl h
        · exact Or.inr ⟨b, htarget, rfl⟩
    · rw [if_neg hcaller]
      rw [Catalog.contains_iff] at hcaller
      refine ⟨Or.inl, fun h => h.elim id ?_⟩
      rintro ⟨-, rfl, hmem, -⟩
      exact absurd hmem hcaller

theorem mem_moduleRoots_addTargets {targets : List Key} {key : Key} :
    key ∈ (graph.addTargets call targets).moduleRoots ↔
      key ∈ graph.moduleRoots ∨ isModuleBody call.enclosing = true ∧ key ∈ targets := by
  rw [addTargets]
  by_cases hbody : isModuleBody call.enclosing = true
  · rw [if_pos hbody, Digraph.mem_foldl_adjoin]
    simp [hbody]
  · rw [if_neg hbody]
    -- A call in a function adds edges at most.
    have hsame : ∀ g : CallGraph, g.moduleRoots = graph.moduleRoots →
        (key ∈ g.moduleRoots ↔ key ∈ graph.moduleRoots ∨ isModuleBody call.enclosing = true ∧ key ∈ targets) := by
      intro g hg
      rw [hg]
      exact ⟨Or.inl, fun h => h.elim id fun hmodule => absurd hmodule.1 hbody⟩
    split
    · rw [foldl_addEdge]
      exact hsame _ rfl
    · exact hsame _ rfl

theorem nodup_edges_addTargets {targets : List Key} (h : graph.edges.Nodup) :
    (graph.addTargets call targets).edges.Nodup := by
  rw [addTargets]
  split
  · exact h
  · split
    · rw [foldl_addEdge]
      exact Digraph.nodup_foldl_adjoin h
    · exact h

theorem resolve_of_link (h : graph.link call = .ok graph') : ∃ r, graph.catalog.resolve call = .ok r := by
  rcases link_cases h with ⟨hr, -⟩ | ⟨hr, -⟩ | ⟨_, _, hr, -⟩ <;> exact ⟨_, hr⟩

theorem catalog_link (h : graph.link call = .ok graph') : graph'.catalog = graph.catalog := by
  rcases link_cases h with ⟨-, rfl⟩ | ⟨-, rfl⟩ | ⟨_, targets, -, rfl⟩
  · rfl
  · rfl
  · exact (addTargets_frame graph call targets).1

theorem mem_edges_link (h : graph.link call = .ok graph') {a b : Key} :
    (a, b) ∈ graph'.edges ↔
      (a, b) ∈ graph.edges ∨
        isModuleBody call.enclosing = false ∧ callerKey call = a ∧ a ∈ graph.catalog.keys ∧
          graph.catalog.Leads call b := by
  rcases link_cases h with ⟨hr, rfl⟩ | ⟨hr, rfl⟩ | ⟨_, targets, hr, rfl⟩
  · simp [Catalog.not_leads_of_external hr]
  · simp [Catalog.not_leads_of_unresolved hr]
  · rw [mem_edges_addTargets, Catalog.leads_of_linked hr]

theorem nodup_edges_link (h : graph.link call = .ok graph') (hnodup : graph.edges.Nodup) :
    graph'.edges.Nodup := by
  rcases link_cases h with ⟨-, rfl⟩ | ⟨-, rfl⟩ | ⟨_, targets, -, rfl⟩
  · exact hnodup
  · exact hnodup
  · exact nodup_edges_addTargets hnodup

theorem mem_moduleRoots_link (h : graph.link call = .ok graph') {key : Key} :
    key ∈ graph'.moduleRoots ↔
      key ∈ graph.moduleRoots ∨ isModuleBody call.enclosing = true ∧ graph.catalog.Leads call key := by
  rcases link_cases h with ⟨hr, rfl⟩ | ⟨hr, rfl⟩ | ⟨_, targets, hr, rfl⟩
  · simp [Catalog.not_leads_of_external hr]
  · simp [Catalog.not_leads_of_unresolved hr]
  · rw [mem_moduleRoots_addTargets, Catalog.leads_of_linked hr]

theorem unresolved_link (h : graph.link call = .ok graph') :
    graph'.unresolved =
      graph.unresolved ++ [call].filter fun call => graph.catalog.resolve call = .ok .unresolved := by
  rcases link_cases h with ⟨hr, rfl⟩ | ⟨hr, rfl⟩ | ⟨_, targets, hr, rfl⟩
  · simp [hr]
  · simp [hr]
  · simp [hr, addTargets_frame]

/-! ### All calls -/

/-- What a graph holds after some calls have been entered. -/
structure Records (catalog : Catalog) (calls : List CallSite) (graph : CallGraph) : Prop where
  catalog_eq : graph.catalog = catalog
  resolved : ∀ call ∈ calls, ∃ r, catalog.resolve call = .ok r
  mem_edges : ∀ a b, (a, b) ∈ graph.edges ↔
    ∃ call ∈ calls, isModuleBody call.enclosing = false ∧ callerKey call = a ∧ a ∈ catalog.keys ∧
      catalog.Leads call b
  nodup_edges : graph.edges.Nodup
  mem_moduleRoots : ∀ key, key ∈ graph.moduleRoots ↔
    ∃ call ∈ calls, isModuleBody call.enclosing = true ∧ catalog.Leads call key
  unresolved_eq : graph.unresolved = calls.filter fun call => catalog.resolve call = .ok .unresolved

theorem records_nil (catalog : Catalog) : Records catalog [] { catalog } where
  catalog_eq := rfl
  resolved := by simp
  mem_edges := by simp
  nodup_edges := List.nodup_nil
  mem_moduleRoots := by simp
  unresolved_eq := rfl

theorem exists_mem_append_singleton {calls : List CallSite} {p : CallSite → Prop} :
    (∃ c ∈ calls ++ [call], p c) ↔ (∃ c ∈ calls, p c) ∨ p call := by
  simp [or_and_right, exists_or]

/-- One more call extends the record by itself. -/
theorem Records.link {calls : List CallSite} (h : Records catalog calls graph)
    (hstep : graph.link call = .ok graph') : Records catalog (calls ++ [call]) graph' := by
  obtain ⟨rfl, hresolved, hedges, hnodup, hroots, hunresolved⟩ := h
  constructor
  · exact catalog_link hstep
  · intro c hc
    rcases List.mem_append.mp hc with hc | hc
    · exact hresolved c hc
    · rw [List.mem_singleton.mp hc]
      exact resolve_of_link hstep
  · intro a b
    rw [mem_edges_link hstep, hedges, exists_mem_append_singleton]
  · exact nodup_edges_link hstep hnodup
  · intro key
    rw [mem_moduleRoots_link hstep, hroots, exists_mem_append_singleton]
  · rw [unresolved_link hstep, hunresolved, List.filter_append]

/-- What holds of the calls that are done and the graph, and is kept by one more call, holds after a run over
further calls. -/
theorem foldlM_link_induction (holds : List CallSite → CallGraph → Prop)
    (hstep : ∀ {done : List CallSite} {graph graph' : CallGraph} {call : CallSite},
      holds done graph → graph.link call = .ok graph' → holds (done ++ [call]) graph')
    {done calls : List CallSite} (h : holds done graph) (hrun : calls.foldlM CallGraph.link graph = .ok graph') :
    holds (done ++ calls) graph' := by
  induction calls generalizing done graph with
  | nil =>
    obtain rfl : graph = graph' := Except.ok.inj hrun
    rwa [List.append_nil]
  | cons call rest ih =>
    rw [List.foldlM_cons] at hrun
    cases hlink : graph.link call with
    | error e =>
      rw [hlink] at hrun
      exact absurd hrun (by simp [bind, Except.bind])
    | ok next =>
      -- The call moves from those to come to those that are done.
      rw [hlink] at hrun
      have hrest := ih (hstep h hlink) hrun
      rwa [List.append_assoc] at hrest

/-- What holds of the graph without calls, and is kept by each call, holds of a built graph and its calls. -/
theorem build_induction {symbols : List Symbol} {calls : List CallSite} {imports : Imports}
    (holds : List CallSite → CallGraph → Prop) (hstart : holds [] { catalog := Catalog.ofProject symbols imports })
    (hstep : ∀ {done : List CallSite} {graph graph' : CallGraph} {call : CallSite},
      holds done graph → graph.link call = .ok graph' → holds (done ++ [call]) graph')
    (h : build symbols calls imports = .ok graph) : holds calls graph :=
  foldlM_link_induction holds hstep hstart h

/-- **A built graph records exactly the calls it was built from.** -/
theorem records_build {symbols : List Symbol} {calls : List CallSite} {imports : Imports}
    (h : build symbols calls imports = .ok graph) : Records (Catalog.ofProject symbols imports) calls graph :=
  build_induction (Records _) (records_nil _) Records.link h

theorem foldlM_link_ok {calls : List CallSite} (graph : CallGraph)
    (h : ∀ call ∈ calls, ∃ r, graph.catalog.resolve call = .ok r) :
    ∃ graph', calls.foldlM link graph = .ok graph' := by
  induction calls generalizing graph with
  | nil => exact ⟨graph, rfl⟩
  | cons call rest ih =>
    obtain ⟨r, hr⟩ := h call List.mem_cons_self
    obtain ⟨next, hlink⟩ := link_ok_of_resolve hr
    obtain ⟨graph', hrest⟩ := ih next fun c hc => by
      rw [catalog_link hlink]
      exact h c (List.mem_cons_of_mem _ hc)
    refine ⟨graph', ?_⟩
    rw [List.foldlM_cons, hlink]
    exact hrest

/-- A graph is built if each of its calls can be resolved, and only then. -/
theorem build_ok_iff {symbols : List Symbol} {calls : List CallSite} {imports : Imports} :
    (∃ graph, build symbols calls imports = .ok graph) ↔
      ∀ call ∈ calls, ∃ r, (Catalog.ofProject symbols imports).resolve call = .ok r :=
  ⟨fun ⟨_, h⟩ => (records_build h).resolved,
    foldlM_link_ok { catalog := Catalog.ofProject symbols imports }⟩

/-- A graph fails to be built in one way only: no key that is looked up is unknown. -/
theorem build_error {symbols : List Symbol} {calls : List CallSite} {imports : Imports} {e : ResolutionError}
    (h : build symbols calls imports = .error e) : e = .emptyPath := by
  obtain ⟨before, call, after, reached, -, -, hlink⟩ := foldlM_eq_error_iff.mp h
  rcases bind_eq_error_iff.mp hlink with hresolve | ⟨_, -, hreturn⟩
  · exact (Catalog.resolve_eq_error_iff.mp hresolve).1
  · exact absurd hreturn (by simp [pure, Except.pure])

/-! ### What calls are resolved to -/

/-- **What a call of a graph is resolved to.**  It is unresolved only if no function has its name.  It leaves the
project only if it has a path that no function has, as it is or as imports lead on, and that begins outside.
Otherwise its targets are distinct functions, each with a reason; and if none is nested in the caller, a function
with the path of the call in the caller's own file is the only one. -/
theorem resolution_classified {r : Resolution} (hr : graph.catalog.resolve call = .ok r) :
    (r.targets? = some [] → ∀ s ∈ graph.catalog.symbols, s.name ≠ call.callee) ∧
    (r.targets? = none → ∃ written path, call.path = some written ∧ Catalog.HasPath call path ∧
      (∀ s ∈ graph.catalog.symbols, s.fullPath ≠ path ∧ s.fullPath ≠ graph.catalog.followAlias path) ∧
      (Catalog.BeginsOutside written ∨ Catalog.BeginsOutside (graph.catalog.followAlias path))) ∧
    (∀ targets, r.targets? = some targets → targets ≠ [] →
      targets.Nodup ∧ ∀ key ∈ targets, graph.catalog.Justified call key) ∧
    ((∀ key, ¬ graph.catalog.Nested call key) → ∀ path, Catalog.HasPath call path →
      ⟨call.file, path⟩ ∈ graph.catalog.keys → r.targets? = some [⟨call.file, path⟩]) := by
  have hres := Catalog.resolves_of_resolve hr
  refine ⟨fun h => ?_, fun h => ?_, fun targets h hne => ?_, fun hnested path hpath hdeclared => ?_⟩
  · exact hres.unresolved_name h
  · exact hres.external_path h
  · cases r with
    | external => exact absurd h (by simp [Resolution.targets?])
    | unresolved => exact absurd (Option.some.inj h).symm hne
    | linked rule targets' =>
      obtain rfl : targets' = targets := Option.some.inj h
      exact ⟨hres.nodup, fun key hkey => hres.justified hkey⟩
  · rw [hres.eq_of_declared (Catalog.lexical?_eq_none_iff.mpr hnested) hpath hdeclared]
    rfl

/-! A project of two files: `main` calls `Point::make`, which only its last two segments lead to. -/

/-- The place of everything in the sample project. -/
def sampleSpan : Syntax.Span := ⟨1, 1, 1, 9⟩

/-- A function that `main` calls. -/
def sampleMake : Symbol :=
  { name := "make", fullPath := "geo::Point::make", visibility := .inModule, file := "src/geo.rs", span := sampleSpan,
    kind := .method, owner := some "Point" }

/-- A function that nothing calls. -/
def sampleArea : Symbol :=
  { name := "area", fullPath := "geo::area", visibility := .inModule, file := "src/geo.rs", span := sampleSpan,
    order := 1 }

/-- The entry point. -/
def sampleMain : Symbol :=
  { name := "main", fullPath := "main", visibility := .inModule, file := "src/main.rs", span := sampleSpan }

/-- The only call. -/
def sampleCall : CallSite :=
  { callee := "make", file := "src/main.rs", span := sampleSpan, enclosing := "main", path := some "Point::make",
    resolved := some "Point::make" }

/-- The graph of the sample project. -/
def sampleGraph : CallGraph :=
  { catalog := Catalog.ofProject [sampleMake, sampleArea, sampleMain] {}
    edges := [(sampleMain.key, sampleMake.key)]
    resolutions := [(sampleCall, [sampleMake.key])] }

/-- The sample graph with its call entered twice. -/
def sampleTwice : CallGraph :=
  { sampleGraph with resolutions := [(sampleCall, [sampleMake.key]), (sampleCall, [sampleMake.key])] }

theorem resolution_classified_sample :
    build [sampleMake, sampleArea, sampleMain] [sampleCall] {} = .ok sampleGraph ∧
      sampleGraph.catalog.resolve sampleCall = .ok (.linked .tail [sampleMake.key]) ∧
      sampleGraph.catalog.Justified sampleCall sampleMake.key := by
  have hbuild : build [sampleMake, sampleArea, sampleMain] [sampleCall] {} = .ok sampleGraph := rfl
  have hr : sampleGraph.catalog.resolve sampleCall = .ok (.linked .tail [sampleMake.key]) := rfl
  obtain ⟨-, -, hlinked, -⟩ := resolution_classified hr
  exact ⟨hbuild, hr, (hlinked _ rfl (List.cons_ne_nil _ _)).2 _ List.mem_cons_self⟩

end CallGraph

end Deadwood
