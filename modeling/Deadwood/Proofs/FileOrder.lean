/-
The order of the files does not change the verdict.

Two runs on the same files in different orders are compared stage by stage.  No
key is declared twice, so the catalogs have the same functions; no path is imported
with two targets, so they have the same aliases; hence they agree
(`agree_ofSources`).  Catalogs that agree resolve every call alike, so the graphs
record the same edges, and everything that a verdict is made of is described by
membership alone (`Records`):

* **`SameCalls.verdict`** — graphs of the same calls have the same verdict;
* **`build_lockstep`** — and one is built if and only if the other is;
* **`analysis_ignores_file_order`** — so an analysis gives the same findings.

Lists that are sets in meaning are compared up to order.  They have no duplicates,
so this follows from having the same members.
-/
import Deadwood.Proofs.Agreement
import Deadwood.Proofs.Aliases
import Deadwood.Proofs.Declarations
import Deadwood.Proofs.Liveness

namespace Deadwood

open Syntax (Node Source)
open ModulePath (isModuleBody)

/-- Two verdicts with the same members in every list, and the same numbers. -/
structure Verdict.SameFindings (verdict verdict' : Verdict) : Prop where
  dead : verdict.dead.Perm verdict'.dead
  reachable : verdict.reachable.Perm verdict'.reachable
  roots : verdict.roots.Perm verdict'.roots
  statistics : verdict.statistics = verdict'.statistics

/-- Two outcomes with the same verdict and the same diagnostics, in any order. -/
structure Outcome.SameFindings (outcome outcome' : Outcome) : Prop where
  verdict : outcome.verdict.SameFindings outcome'.verdict
  diagnostics : outcome.diagnostics.Perm outcome'.diagnostics

/-! ### Graphs of the same calls -/

namespace CallGraph

variable {calls calls' : List CallSite} {graph graph' : CallGraph} {policy : Policy}

/-- Two graphs that record the same calls, in any order, in catalogs that agree. -/
structure SameCalls (calls calls' : List CallSite) (graph graph' : CallGraph) : Prop where
  agree : graph.catalog.Agree graph'.catalog
  perm : calls.Perm calls'
  records : Records graph.catalog calls graph
  records' : Records graph'.catalog calls' graph'

namespace SameCalls

theorem entry_iff (h : SameCalls calls calls' graph graph') {key : Key} :
    Entry graph.catalog calls policy key ↔ Entry graph'.catalog calls' policy key := by
  simp only [Entry, h.agree.symbols.mem_iff, h.perm.mem_iff, h.agree.leads_iff]

theorem alive_iff (h : SameCalls calls calls' graph graph') {key : Key} :
    Alive graph.catalog calls policy key ↔ Alive graph'.catalog calls' policy key := by
  have hstep : CallsTo graph.catalog calls = CallsTo graph'.catalog calls' := by
    funext a b
    simp only [CallsTo, h.perm.mem_iff, h.agree.leads_iff]
  simp only [Alive, hstep, h.entry_iff]

theorem edges (h : SameCalls calls calls' graph graph') : graph.edges.Perm graph'.edges := by
  refine (List.perm_ext_iff_of_nodup h.records.nodup_edges h.records'.nodup_edges).mpr fun ⟨a, b⟩ => ?_
  rw [h.records.mem_edges, h.records'.mem_edges]
  simp only [h.perm.mem_iff, h.agree.mem_keys_iff, h.agree.leads_iff]

theorem unresolved (h : SameCalls calls calls' graph graph') : graph.unresolved.Perm graph'.unresolved := by
  rw [h.records.unresolved_eq, h.records'.unresolved_eq]
  simp only [h.agree.unresolved_iff]
  exact h.perm.filter _

theorem roots (h : SameCalls calls calls' graph graph') (policy : Policy) :
    (graph.roots policy).Perm (graph'.roots policy) := by
  refine (List.perm_ext_iff_of_nodup (nodup_roots _ _) (nodup_roots _ _)).mpr fun key => ?_
  rw [h.records.mem_roots_iff, h.records'.mem_roots_iff, h.entry_iff]

theorem mem_reachable_iff (h : SameCalls calls calls' graph graph') {key : Key} :
    key ∈ graph.reachable (graph.roots policy) ↔ key ∈ graph'.reachable (graph'.roots policy) := by
  rw [h.records.mem_reachable_iff, h.records'.mem_reachable_iff, h.alive_iff]

theorem reachable (h : SameCalls calls calls' graph graph') (policy : Policy) :
    (graph.reachable (graph.roots policy)).Perm (graph'.reachable (graph'.roots policy)) :=
  (List.perm_ext_iff_of_nodup (nodup_reachable _ _) (nodup_reachable _ _)).mpr fun _ => h.mem_reachable_iff

theorem unreached (h : SameCalls calls calls' graph graph') (policy : Policy) :
    (graph.unreached (graph.reachable (graph.roots policy))).Perm
      (graph'.unreached (graph'.reachable (graph'.roots policy))) := by
  rw [CallGraph.unreached, CallGraph.unreached, Census.unreached, Census.unreached]
  simp only [List.contains_eq_mem, h.mem_reachable_iff]
  exact h.agree.symbols.filter _

theorem condemned (h : SameCalls calls calls' graph graph') (policy : Policy) :
    (graph.condemned policy).Perm (graph'.condemned policy) :=
  (h.unreached policy).filter _

theorem statistics_eq (h : SameCalls calls calls' graph graph') (policy : Policy) :
    (graph.verdict policy).statistics = (graph'.verdict policy).statistics := by
  have hdead : ∀ p : Symbol → Bool, (graph.condemned policy).countP p = (graph'.condemned policy).countP p :=
    fun p => (h.condemned policy).countP_eq p
  have htally : Census.tally graph.catalog.symbols (graph.condemned policy) =
      Census.tally graph'.catalog.symbols (graph'.condemned policy) := by
    simp only [Census.tally, hdead, h.agree.symbols.countP_eq]
  rw [statistics_verdict, statistics_verdict]
  -- Each number is a length or a count of one of the lists above.
  exact Statistics.mk.injEq .. |>.mpr ⟨h.agree.symbols.length_eq, (h.reachable policy).length_eq,
    (h.condemned policy).length_eq, (h.unreached policy).countP_eq _, hdead _, hdead _, htally,
    h.edges.length_eq, h.unresolved.length_eq⟩

/-- **Graphs that record the same calls in catalogs that agree have the same verdict.** -/
theorem verdict (h : SameCalls calls calls' graph graph') (policy : Policy) :
    (graph.verdict policy).SameFindings (graph'.verdict policy) where
  dead := by
    rw [dead_eq, dead_eq]
    have hdead := (graph.catalog.inReportOrder_perm _).trans (h.condemned policy)
    exact hdead.trans (graph'.catalog.inReportOrder_perm _).symm
  reachable := by
    rw [reachable_verdict, reachable_verdict]
    exact h.reachable policy
  roots := by
    rw [roots_verdict, roots_verdict]
    exact h.roots policy
  statistics := h.statistics_eq policy

end SameCalls

variable {symbols symbols' : List Symbol} {imports imports' : Imports}

theorem sameCalls_of_build (hagree : (Catalog.ofProject symbols imports).Agree (Catalog.ofProject symbols' imports'))
    (hcalls : calls.Perm calls') (h : build symbols calls imports = .ok graph)
    (h' : build symbols' calls' imports' = .ok graph') : SameCalls calls calls' graph graph' := by
  have hrecords := records_build h
  have hrecords' := records_build h'
  have hcatalog := hrecords.catalog_eq
  have hcatalog' := hrecords'.catalog_eq
  rw [← hcatalog, ← hcatalog'] at hagree
  exact ⟨hagree, hcalls, hcatalog ▸ hrecords, hcatalog' ▸ hrecords'⟩

theorem build_ok_of_agree
    (hagree : (Catalog.ofProject symbols imports).Agree (Catalog.ofProject symbols' imports'))
    (hcalls : calls.Perm calls') (h : ∃ graph, build symbols calls imports = .ok graph) :
    ∃ graph', build symbols' calls' imports' = .ok graph' := by
  refine build_ok_iff.mpr fun call hcall => ?_
  obtain ⟨r, hr⟩ := build_ok_iff.mp h call (hcalls.mem_iff.mpr hcall)
  obtain ⟨r', hr', -⟩ := hagree.resolve_of hr
  exact ⟨r', hr'⟩

/-- Of two projects that differ in order only, a graph is built of both or of neither. -/
theorem build_lockstep (hagree : (Catalog.ofProject symbols imports).Agree (Catalog.ofProject symbols' imports'))
    (hcalls : calls.Perm calls') :
    Lockstep (SameCalls calls calls') (build symbols calls imports) (build symbols' calls' imports') := by
  cases h : build symbols calls imports with
  | ok graph =>
    obtain ⟨graph', h'⟩ := build_ok_of_agree hagree hcalls ⟨graph, h⟩
    rw [h']
    exact .ok (sameCalls_of_build hagree hcalls h h')
  | error e =>
    cases h' : build symbols' calls' imports' with
    | ok graph' =>
      obtain ⟨graph, hok⟩ := build_ok_of_agree hagree.symm hcalls.symm ⟨graph', h'⟩
      exact absurd (h.symm.trans hok) (by simp)
    | error e' =>
      -- There is one error only, whichever call it comes from.
      obtain rfl := build_error h
      obtain rfl := build_error h'
      exact .error _

end CallGraph

/-! ### Facts of the same files -/

namespace FileFacts

variable {parse : Source → Node} {entries entries' : List (String × Source)}

/-- The facts of sources that are read with a parser. -/
def ofSources (parse : Source → Node) (entries : List (String × Source)) : List FileFacts :=
  entries.map fun entry => ofTree entry.1 entry.2 (parse entry.2)

/-- The error of the first file that a reading refuses. -/
def refusal? (parse : Source → Node) (strict : Bool) (entries : List (String × Source)) : Option SyntaxError :=
  if strict then entries.findSome? fun entry => SyntaxError.first? entry.1 entry.2 (parse entry.2) else none

theorem readInTurn_cons (parse : Source → Node) (strict : Bool) (file : String) (source : Source)
    (rest : List (String × Source)) :
    readInTurn parse strict ((file, source) :: rest) = do
      let facts ← read parse strict file source
      let more ← readInTurn parse strict rest
      return facts :: more := by
  rw [readInTurn, readInTurn, readEach]
  cases read parse strict file source with
  | error error => rfl
  | ok facts =>
    rcases readEach parse strict rest with ⟨more, _ | error⟩
    · rfl
    · rfl

theorem readInTurn_eq (parse : Source → Node) (strict : Bool) (entries : List (String × Source)) :
    readInTurn parse strict entries = (refusal? parse strict entries).elim (.ok (ofSources parse entries)) .error := by
  induction entries with
  | nil => cases strict <;> rfl
  | cons entry rest ih =>
    rw [readInTurn_cons, ih, read]
    cases strict with
    | false => rfl
    | true =>
      simp only [refusal?, if_true, List.findSome?_cons]
      cases SyntaxError.first? entry.1 entry.2 (parse entry.2) with
      | some error => rfl
      | none => cases rest.findSome? fun entry => SyntaxError.first? entry.1 entry.2 (parse entry.2) <;> rfl

/-- Files that are read at the same time are refused, or give facts, as if they were read in turn. -/
theorem readTogether_eq (parse : Source → Node) (strict : Bool) (entries : List (String × Source)) :
    readTogether parse strict entries = readInTurn parse strict entries := by
  induction entries with
  | nil => rfl
  | cons entry rest ih =>
    rw [readTogether] at ih ⊢
    rw [List.map_cons, List.mapM_cons, ih, readInTurn_cons]
    rfl

/-- What is read, for any number of files and of workers. -/
theorem readAll_eq (parse : Source → Node) (strict : Bool) (workers : Option Int)
    (sources : OrderedMap String Source) :
    readAll parse strict workers sources =
      (refusal? parse strict sources.entries).elim (.ok (ofSources parse sources.entries)) .error := by
  rw [readAll]
  split
  · exact readInTurn_eq parse strict sources.entries
  · rw [readTogether_eq]
    exact readInTurn_eq parse strict sources.entries

/-- A tolerant reading refuses no file. -/
theorem readAll_tolerant (parse : Source → Node) (workers : Option Int) (sources : OrderedMap String Source) :
    readAll parse false workers sources = .ok (ofSources parse sources.entries) :=
  readAll_eq parse false workers sources

/-- Files with different names declare different keys. -/
theorem nodup_key_of_files {facts : List FileFacts}
    (htrees : ∀ file ∈ facts, ∃ source root, file = ofTree file.file source root)
    (hfiles : (facts.map (·.file)).Nodup) :
    ((facts.flatMap fun file => file.symbols.symbols).map (·.key)).Nodup := by
  have hown : ∀ file ∈ facts, ∀ s ∈ file.symbols.symbols, s.file = file.file := by
    intro file hfile s hs
    obtain ⟨source, root, heq⟩ := htrees file hfile
    rw [heq] at hs
    exact FileSymbols.file_of_mem_symbols hs
  rw [List.map_flatMap, List.nodup_flatMap]
  refine ⟨fun file hfile => ?_, ?_⟩
  · obtain ⟨source, root, heq⟩ := htrees file hfile
    rw [heq]
    exact FileSymbols.nodup_key file.file source root
  · refine (List.pairwise_map.mp hfiles).imp_of_mem fun {a b} ha hb hne => ?_
    -- A common key would have one file, but each function lies in the file it was found in.
    intro key hkeyA hkeyB
    obtain ⟨s, hs, rfl⟩ := List.mem_map.mp hkeyA
    obtain ⟨t, ht, hkey⟩ := List.mem_map.mp hkeyB
    have hfile : t.file = s.file := congrArg Key.file hkey
    rw [hown a ha s hs, hown b hb t ht] at hfile
    exact hne hfile.symm

theorem nodup_key_ofSources (hfiles : (entries.map (·.1)).Nodup) :
    (((ofSources parse entries).flatMap fun file => file.symbols.symbols).map (·.key)).Nodup := by
  refine nodup_key_of_files (fun facts hfacts => ?_) ?_
  · obtain ⟨entry, -, rfl⟩ := List.mem_map.mp hfacts
    exact ⟨entry.2, parse entry.2, rfl⟩
  · rw [ofSources, List.map_map]
    exact hfiles

theorem importedAs_congr {facts facts' : List FileFacts} (hperm : facts.Perm facts') {path target : String} :
    ImportedAs facts path target ↔ ImportedAs facts' path target := by
  simp only [ImportedAs, hperm.mem_iff]

/-- The same files in another order make catalogs that agree. -/
theorem agree_ofSources (hperm : entries.Perm entries') (hfiles : (entries.map (·.1)).Nodup)
    (hone : ∀ path target target', ImportedAs (ofSources parse entries) path target →
      ImportedAs (ofSources parse entries) path target' → target = target') :
    (Catalog.ofProject ((ofSources parse entries).flatMap fun file => file.symbols.symbols)
        (Imports.ofFacts (ofSources parse entries))).Agree
      (Catalog.ofProject ((ofSources parse entries').flatMap fun file => file.symbols.symbols)
        (Imports.ofFacts (ofSources parse entries'))) := by
  have hfacts : (ofSources parse entries).Perm (ofSources parse entries') := hperm.map _
  have hfiles' : (entries'.map (·.1)).Nodup := (hperm.map Prod.fst).nodup_iff.mp hfiles
  refine ⟨?_, fun path => Option.ext fun target => ?_⟩
  · rw [Catalog.symbols_ofProject_of_nodup (nodup_key_ofSources hfiles),
      Catalog.symbols_ofProject_of_nodup (nodup_key_ofSources hfiles')]
    exact hfacts.flatMap_right _
  · have hone' : ∀ path target target', ImportedAs (ofSources parse entries') path target →
        ImportedAs (ofSources parse entries') path target' → target = target' := by
      simpa only [importedAs_congr hfacts] using hone
    rw [get?_aliases_iff hone, get?_aliases_iff hone', importedAs_congr hfacts]

theorem diagnostics_perm {facts facts' : List FileFacts} (hperm : facts.Perm facts') :
    (diagnostics facts).Perm (diagnostics facts') := by
  refine (List.perm_ext_iff_of_nodup (nodup_eraseDups _) (nodup_eraseDups _)).mpr fun diagnostic => ?_
  rw [List.mem_eraseDups, List.mem_eraseDups]
  exact (hperm.flatMap_right _).mem_iff

end FileFacts

/-! ### Analyses of the same files -/

theorem Lockstep.mapError {ε ε' α β : Type} {related : α → β → Prop} {x : Except ε α} {y : Except ε β}
    (h : Lockstep related x y) (f : ε → ε') : Lockstep related (x.mapError f) (y.mapError f) := by
  cases h with
  | error e => exact .error (f e)
  | ok hab => exact .ok hab

/-- **The order of the files does not change the findings.**  Whatever the parser and the policy: if no path is
imported with two targets, a tolerant analysis of the same files in another order fails alike, or has the same roots,
the same reached and the same dead functions, the same numbers and the same diagnostics. -/
theorem analysis_ignores_file_order (parse : Source → Node) (policy : Policy) (workers : Option Int)
    {sources sources' : OrderedMap String Source} (hperm : sources.entries.Perm sources'.entries)
    (hfiles : (sources.entries.map (·.1)).Nodup)
    (hone : ∀ path target target', ImportedAs (FileFacts.ofSources parse sources.entries) path target →
      ImportedAs (FileFacts.ofSources parse sources.entries) path target' → target = target') :
    Lockstep Outcome.SameFindings (analyzeWith parse sources policy false workers)
      (analyzeWith parse sources' policy false workers) := by
  have hfacts : (FileFacts.ofSources parse sources.entries).Perm (FileFacts.ofSources parse sources'.entries) :=
    hperm.map _
  have hbuild := CallGraph.build_lockstep (FileFacts.agree_ofSources hperm hfiles hone)
    (hfacts.flatMap_right fun file => file.calls.calls)
  have houtcome : Lockstep Outcome.SameFindings
      (Outcome.ofFacts (FileFacts.ofSources parse sources.entries) policy)
      (Outcome.ofFacts (FileFacts.ofSources parse sources'.entries) policy) :=
    hbuild.bind fun graph graph' h => .ok ⟨h.verdict policy, FileFacts.diagnostics_perm hfacts⟩
  rw [analyzeWith, analyzeWith, FileFacts.readAll_tolerant, FileFacts.readAll_tolerant]
  cases checkWorkers workers with
  | error e => exact .error e
  | ok _ => exact houtcome.mapError AnalysisError.resolution

/-- The files `fn f() {}` and `use a::f; fn g() { f() }`. -/
def sampleFiles : List (String × Source) :=
  [("src/a.rs", .ofText "fn f() \x7b\x7d"), ("src/b.rs", .ofText "use a::f; fn g() \x7b f() \x7d")]

/-- A parser for them, which tells them apart by their length. -/
def sampleParse (source : Source) : Node :=
  if source.bytes.length == 9 then
    .mk (.other "source_file") 0 9 none true false [
      .mk .functionItem 0 9 none true false [
        .mk .identifier 3 4 (some "name") true false [],
        .mk (.other "block") 7 9 (some "body") true false []]]
  else
    .mk (.other "source_file") 0 24 none true false [
      .mk .useDeclaration 0 9 none true false [
        .mk .scopedIdentifier 4 8 (some "argument") true false [
          .mk .identifier 4 5 (some "path") true false [],
          .mk .identifier 7 8 (some "name") true false []]],
      .mk .functionItem 10 24 none true false [
        .mk .identifier 13 14 (some "name") true false [],
        .mk (.other "block") 17 24 (some "body") true false [
          .mk .callExpression 19 22 none true false [
            .mk .identifier 19 20 (some "function") true false []]]]]

theorem analysis_ignores_file_order_sample :
    ∃ outcome outcome', analyzeWith sampleParse ⟨sampleFiles⟩ {} false none = .ok outcome ∧
      analyzeWith sampleParse ⟨sampleFiles.reverse⟩ {} false none = .ok outcome' ∧
      outcome.SameFindings outcome' := by
  have hentries : (FileFacts.ofSources sampleParse sampleFiles).map (·.calls.imports) =
      [⟨[]⟩, ⟨[("b", ⟨[("f", "a::f")]⟩)]⟩] := rfl
  have hone : ∀ path target, ImportedAs (FileFacts.ofSources sampleParse sampleFiles) path target →
      target = "a::f" := by
    rintro path target ⟨place, -, file, hfile, table, htable, htarget⟩
    have hmem := List.mem_map_of_mem (f := fun file : FileFacts => file.calls.imports) hfile
    rw [hentries, List.mem_pair] at hmem
    rcases hmem with h | h
    · exact absurd (h ▸ htable) List.not_mem_nil
    · have hb := List.mem_singleton.mp (h ▸ htable)
      have htable' : table = ⟨[("f", "a::f")]⟩ := congrArg Prod.snd hb
      exact congrArg Prod.snd (List.mem_singleton.mp (htable' ▸ htarget))
  have hok : ∃ outcome, analyzeWith sampleParse ⟨sampleFiles⟩ {} false none = .ok outcome := ⟨_, rfl⟩
  obtain ⟨outcome, hok⟩ := hok
  have hperm : (⟨sampleFiles⟩ : OrderedMap String Source).entries.Perm
      (⟨sampleFiles.reverse⟩ : OrderedMap String Source).entries := (List.reverse_perm sampleFiles).symm
  have hsame := analysis_ignores_file_order sampleParse {} none hperm (by decide)
    fun path target target' h h' => (hone path target h).trans (hone path target' h').symm
  rw [hok] at hsame
  obtain ⟨outcome', hok', hfindings⟩ := hsame.of_ok
  exact ⟨outcome, outcome', hok, hok', hfindings⟩

end Deadwood
