/-
Strict and tolerant analyses.

A strict analysis refuses the first file with a syntax error, and a tolerant one reports every such
file and goes on.  The main statements are

* **`FileFacts.refusal?_eq_some_iff`** — which file is refused, and where its error is said to be;
* **`FileFacts.exists_named_iff`** — the files that are reported are those with an error, if a
  function item without one has a name;
* **`FileFacts.exists_graph_iff`** — the calls of several files can be linked exactly if none of
  them is stuck;
* **`strict_agrees_with_tolerant`** — hence the two analyses differ in nothing but the refusal, and
  a tolerant one has an outcome exactly if no call is stuck.

No callee is empty in a text that the grammar admits.  A parser that fills in missing names, though,
may leave nothing of a path but its separators, and a call of such a path is stuck
(`tolerant_without_outcome`).
-/
import Deadwood.Proofs.Remarks

namespace Deadwood

open Syntax

/-! ### Which file is refused -/

theorem SyntaxError.first?_eq_some_iff {file : String} {source : Source} {root : Node} {e : SyntaxError} :
    SyntaxError.first? file source root = some e ↔
      ∃ fault, root.preorder.find? Node.isFault = some fault ∧
        e = ⟨file, source.faultText root, some ((source.point fault.start).1 : Int),
          some ((source.point fault.start).2 : Int)⟩ := by
  rw [first?, Source.faultPoint?, Node.firstFault?_eq_find?]
  cases hfault : root.preorder.find? Node.isFault with
  | none =>
    have hsound : ¬ root.hasError = true := by
      intro herror
      obtain ⟨fault, hmem, hmarks⟩ := Node.hasError_iff.mp herror
      exact List.find?_eq_none.mp hfault fault hmem hmarks
    simp [hsound]
  | some fault =>
    have herror : root.hasError = true :=
      Node.hasError_iff.mpr ⟨fault, List.mem_of_find?_eq_some hfault, List.find?_some hfault⟩
    simp [herror, eq_comm]

theorem SyntaxError.first?_eq_none_iff {file : String} {source : Source} {root : Node} :
    SyntaxError.first? file source root = none ↔ root.hasError = false := by
  rw [first?]
  split <;> simp_all

namespace FileFacts

variable {parse : Source → Node} {entries : List (String × Source)}

theorem refusal?_eq_none_iff :
    refusal? parse true entries = none ↔ ∀ entry ∈ entries, (parse entry.2).hasError = false := by
  rw [refusal?, if_pos rfl, List.findSome?_eq_none_iff]
  simp only [SyntaxError.first?_eq_none_iff]

theorem refusal?_eq_some_iff {e : SyntaxError} :
    refusal? parse true entries = some e ↔
      ∃ before file source after, entries = before ++ (file, source) :: after ∧
        (∀ entry ∈ before, (parse entry.2).hasError = false) ∧
        SyntaxError.first? file source (parse source) = some e := by
  rw [refusal?, if_pos rfl, List.findSome?_eq_some_iff]
  constructor
  · rintro ⟨before, entry, after, hentries, hfirst, hnone⟩
    exact ⟨before, entry.1, entry.2, after, hentries,
      fun other hother => SyntaxError.first?_eq_none_iff.mp (hnone other hother), hfirst⟩
  · rintro ⟨before, file, source, after, hentries, hsound, hfirst⟩
    exact ⟨before, (file, source), after, hentries, hfirst,
      fun other hother => SyntaxError.first?_eq_none_iff.mpr (hsound other hother)⟩

end FileFacts

/-! ### Which files are reported -/

/-- Every function item without an error has a name. -/
def NamesFunctions (source : Source) (root : Node) : Prop :=
  ∀ node ∈ root.preorder, node.kind = .functionItem → node.hasError = false →
    ∃ name, source.fieldText? node "name" = some name ∧ name ≠ ""

instance (source : Source) (root : Node) : Decidable (NamesFunctions source root) :=
  decidable_of_iff (∀ node ∈ root.preorder, node.kind = .functionItem → node.hasError = false →
    (source.fieldText? node "name").any (· ≠ "") = true) (by simp [NamesFunctions, Option.any_eq_true])

/-- In a tree without an error no function item is broken. -/
theorem NamesFunctions.brokenItems_eq_nil {source : Source} {root : Node} (h : NamesFunctions source root)
    (hsound : root.hasError = false) (closed : List Kind) : brokenItems closed source root = [] := by
  refine List.filter_eq_nil_iff.mpr fun v hv hbroken => ?_
  have hin := mem_preorder_of_mem_walk hv
  have hwhole : v.node.hasError = false := by
    by_contra herror
    have hroot := Node.hasError_of_mem hin (Bool.eq_true_of_not_eq_false herror)
    rw [hsound] at hroot
    exact Bool.false_ne_true hroot
  rw [Visit.isBroken, Bool.and_eq_true, decide_eq_true_iff, Option.isNone_iff_eq_none] at hbroken
  obtain ⟨name, hname, hne⟩ := h v.node hin hbroken.1 hwhole
  have henter : enterable? source v.node = some name := enterable?_eq_some_iff.mpr ⟨hwhole, hname, hne⟩
  rw [hbroken.2] at henter
  exact absurd henter (by simp)

theorem file_of_mem_remarks {file : String} {source : Source} {root : Node} {broken : List Visit} {d : Diagnostic}
    (h : d ∈ remarks file source root broken) : d.file = file := by
  rw [remarks] at h
  split at h
  · rw [List.mem_singleton.mp h]
    rfl
  · obtain ⟨v, -, rfl⟩ := List.mem_map.mp h
    rfl

/-- An error leaves a remark, whether or not it broke a function item. -/
theorem remarks_ne_nil {root : Node} (herror : root.hasError = true) (file : String) (source : Source)
    (broken : List Visit) : remarks file source root broken ≠ [] := by
  rw [remarks]
  split
  · exact List.cons_ne_nil _ _
  · rename_i hboth
    have hbroken : broken ≠ [] := fun hnil => hboth ⟨herror, hnil⟩
    simpa using hbroken

namespace FileFacts

variable {parse : Source → Node} {entries : List (String × Source)}

theorem mem_diagnostics_iff {d : Diagnostic} :
    d ∈ diagnostics (ofSources parse entries) ↔
      ∃ file source, (file, source) ∈ entries ∧
        (d ∈ remarks file source (parse source) (brokenItems declarationStops source (parse source)) ∨
          d ∈ remarks file source (parse source) (brokenItems callStops source (parse source))) := by
  rw [diagnostics, List.mem_eraseDups, ofSources, List.flatMap_map, List.mem_flatMap]
  simp only [Prod.exists, ofTree, List.mem_append, FileSymbols.diagnostics_extract, FileCalls.diagnostics_extract]

theorem exists_named_iff (hnames : ∀ entry ∈ entries, NamesFunctions entry.2 (parse entry.2)) (file : String) :
    (∃ d ∈ diagnostics (ofSources parse entries), d.file = file) ↔
      ∃ source, (file, source) ∈ entries ∧ (parse source).hasError = true := by
  constructor
  · rintro ⟨d, hd, rfl⟩
    obtain ⟨file, source, hentry, hd⟩ := mem_diagnostics_iff.mp hd
    obtain rfl : d.file = file := hd.elim file_of_mem_remarks file_of_mem_remarks
    refine ⟨source, hentry, ?_⟩
    -- Without an error there is no broken function item, so nothing to remark on.
    by_contra hsound
    rw [Bool.not_eq_true] at hsound
    have hnone := (hnames _ hentry).brokenItems_eq_nil hsound
    dsimp only at hnone
    simp [remarks, hsound, hnone] at hd
  · rintro ⟨source, hentry, herror⟩
    obtain ⟨d, hd⟩ := List.exists_mem_of_ne_nil _
      (remarks_ne_nil herror file source (brokenItems declarationStops source (parse source)))
    exact ⟨d, mem_diagnostics_iff.mpr ⟨file, source, hentry, Or.inl hd⟩, file_of_mem_remarks hd⟩

end FileFacts

/-! ### The two analyses -/

namespace FileFacts

/-- The calls of several files. -/
def allCalls (facts : List FileFacts) : List CallSite :=
  facts.flatMap fun file => file.calls.calls

/-- The functions of several files, with what their imports lead to. -/
def catalog (facts : List FileFacts) : Catalog :=
  Catalog.ofProject (facts.flatMap fun file => file.symbols.symbols)
    (facts.foldl (fun imports file => imports.merge file.calls.imports) {})

theorem exists_graph_iff {facts : List FileFacts} :
    (∃ linked, graph facts = .ok linked) ↔ ∀ call ∈ allCalls facts, ¬ (catalog facts).Stuck call := by
  refine CallGraph.build_ok_iff.trans (forall₂_congr fun call _ => ?_)
  exact Catalog.exists_resolve_iff

end FileFacts

section

variable {parse : Source → Node} {sources : OrderedMap String Source} {policy : Policy} {workers : Option Int}

theorem checkWorkers_of_positive (h : ∀ count, workers = some count → 1 ≤ count) : checkWorkers workers = .ok () := by
  cases workers with
  | none => rfl
  | some count =>
    have hcount := h count rfl
    rw [checkWorkers, if_neg (by omega)]

/-- Only a refused file makes an analysis fail with a syntax error. -/
theorem analyzeWith_eq_malformed_iff (hworkers : checkWorkers workers = .ok ()) {strict : Bool} {e : SyntaxError} :
    analyzeWith parse sources policy strict workers = .error (.malformed e) ↔
      FileFacts.refusal? parse strict sources.entries = some e := by
  rw [analyzeWith_eq parse sources policy strict hworkers]
  cases FileFacts.refusal? parse strict sources.entries with
  | some e' => simp
  | none =>
    cases Outcome.ofFacts (FileFacts.ofSources parse sources.entries) policy with
    | ok outcome => simp [Except.mapError]
    | error e' => simp [Except.mapError]

theorem exists_reported_iff (hnames : ∀ entry ∈ sources.entries, NamesFunctions entry.2 (parse entry.2)) {strict : Bool}
    {outcome : Outcome} (h : analyzeWith parse sources policy strict workers = .ok outcome) (file : String) :
    (∃ d ∈ outcome.diagnostics, d.file = file) ↔
      ∃ source, (file, source) ∈ sources.entries ∧ (parse source).hasError = true := by
  obtain ⟨graph, -, rfl⟩ := Outcome.ofFacts_eq_ok_iff.mp (ofFacts_of_analyzeWith h)
  exact FileFacts.exists_named_iff hnames file

end

/-- **Strict and tolerant analyses agree.**  A strict analysis fails with a syntax error exactly if some tree has one;
it names the first file with an error, and the place of the first fault in the order of the text.  Otherwise it gives
what a tolerant analysis gives, and reports nothing.  A tolerant analysis never fails with a syntax error, and the
files that its outcome reports are those whose trees have an error; it has an outcome exactly if no call is stuck. -/
theorem strict_agrees_with_tolerant (parse : Source → Node) (sources : OrderedMap String Source) (policy : Policy)
    (workers : Option Int) (hworkers : ∀ count, workers = some count → 1 ≤ count)
    (hnames : ∀ entry ∈ sources.entries, NamesFunctions entry.2 (parse entry.2)) :
    ((∃ e, analyzeWith parse sources policy true workers = .error (.malformed e)) ↔
      ∃ entry ∈ sources.entries, (parse entry.2).hasError = true) ∧
    (∀ e, analyzeWith parse sources policy true workers = .error (.malformed e) →
      ∃ before file source after fault, sources.entries = before ++ (file, source) :: after ∧
        (∀ entry ∈ before, (parse entry.2).hasError = false) ∧
        (parse source).preorder.find? Node.isFault = some fault ∧
        e = ⟨file, source.faultText (parse source), some ((source.point fault.start).1 : Int),
          some ((source.point fault.start).2 : Int)⟩) ∧
    ((∀ entry ∈ sources.entries, (parse entry.2).hasError = false) →
      analyzeWith parse sources policy true workers = analyzeWith parse sources policy false workers ∧
        ∀ outcome, analyzeWith parse sources policy true workers = .ok outcome → outcome.diagnostics = []) ∧
    (∀ e, analyzeWith parse sources policy false workers ≠ .error (.malformed e)) ∧
    (∀ outcome, analyzeWith parse sources policy false workers = .ok outcome → ∀ file,
      (∃ d ∈ outcome.diagnostics, d.file = file) ↔
        ∃ source, (file, source) ∈ sources.entries ∧ (parse source).hasError = true) ∧
    ((∃ outcome, analyzeWith parse sources policy false workers = .ok outcome) ↔
      ∀ call ∈ FileFacts.allCalls (FileFacts.ofSources parse sources.entries),
        ¬ (FileFacts.catalog (FileFacts.ofSources parse sources.entries)).Stuck call) := by
  have hcheck := checkWorkers_of_positive hworkers
  refine ⟨?_, fun e he => ?_, fun hsound => ⟨?_, fun outcome hok => ?_⟩, fun e he => ?_,
    fun outcome hok => exists_reported_iff hnames hok, ?_⟩
  · -- Some file is refused unless no tree has an error.
    simp only [analyzeWith_eq_malformed_iff hcheck]
    rw [← Option.ne_none_iff_exists', Ne, FileFacts.refusal?_eq_none_iff]
    simp
  · obtain ⟨before, file, source, after, hentries, hsound, hfirst⟩ :=
      FileFacts.refusal?_eq_some_iff.mp ((analyzeWith_eq_malformed_iff hcheck).mp he)
    obtain ⟨fault, hfault, rfl⟩ := SyntaxError.first?_eq_some_iff.mp hfirst
    exact ⟨before, file, source, after, fault, hentries, hsound, hfault, rfl⟩
  · -- Nothing is refused, and both go on with the same facts.
    rw [analyzeWith_eq parse sources policy true hcheck, analyzeWith_eq parse sources policy false hcheck,
      FileFacts.refusal?_eq_none_iff.mpr hsound]
    rfl
  · -- A finding would name a file, and that file would have an error.
    refine List.eq_nil_iff_forall_not_mem.mpr fun d hd => ?_
    obtain ⟨source, hentry, herror⟩ := (exists_reported_iff hnames hok d.file).mp ⟨d, hd, rfl⟩
    rw [hsound _ hentry] at herror
    exact Bool.false_ne_true herror
  · have hrefused := (analyzeWith_eq_malformed_iff hcheck).mp he
    exact absurd hrefused (by simp [FileFacts.refusal?])
  · exact (exists_outcome_iff parse sources policy hcheck).trans FileFacts.exists_graph_iff

theorem strict_agrees_with_tolerant_faulty :
    (∀ entry ∈ faultyFiles, NamesFunctions entry.2 (faultyParse entry.2)) ∧
      (∃ e, analyzeWith faultyParse ⟨faultyFiles⟩ {} true (some 2) = .error (.malformed e) ∧ e.file = "src/a.rs") ∧
      ∃ outcome, analyzeWith faultyParse ⟨faultyFiles⟩ {} false (some 2) = .ok outcome ∧
        (∃ d ∈ outcome.diagnostics, d.file = "src/a.rs") ∧ ∃ d ∈ outcome.diagnostics, d.file = "src/b.rs" := by
  have hnames : ∀ entry ∈ faultyFiles, NamesFunctions entry.2 (faultyParse entry.2) := by decide +kernel
  obtain ⟨hmalformed, hfirst, -, -, hreported, -⟩ :=
    strict_agrees_with_tolerant faultyParse ⟨faultyFiles⟩ {} (some 2) (by simp) hnames
  refine ⟨hnames, ?_, ?_⟩
  · obtain ⟨e, he⟩ := hmalformed.mpr ⟨_, List.mem_cons_self, by decide +kernel⟩
    obtain ⟨before, file, source, after, fault, hentries, hsound, -, rfl⟩ := hfirst e he
    refine ⟨_, he, ?_⟩
    cases before with
    | nil => exact (congrArg Prod.fst (List.cons.inj hentries).1).symm
    | cons entry rest =>
      -- Nothing comes before the first file, which has an error.
      have hnone := hsound entry List.mem_cons_self
      rw [← (List.cons.inj hentries).1] at hnone
      exact absurd hnone (by decide +kernel)
  · obtain ⟨outcome, hok⟩ : ∃ outcome, analyzeWith faultyParse ⟨faultyFiles⟩ {} false (some 2) = .ok outcome := ⟨_, rfl⟩
    refine ⟨outcome, hok, (hreported outcome hok _).mpr ?_, (hreported outcome hok _).mpr ?_⟩
    · exact ⟨_, List.mem_cons_self, by decide +kernel⟩
    · exact ⟨_, List.mem_cons_of_mem _ List.mem_cons_self, by decide +kernel⟩

/-- The call `<::>::()` with ten line ends in each gap; names are left out on both sides of the last separator. -/
def namelessText : Source :=
  .ofText ("static X: u8 = <" ++ gap ++ "::" ++ gap ++ ">" ++ gap ++ "::" ++ gap ++ "();")
where
  gap := "\n\n\n\n\n\n\n\n\n\n"

/-- Its tree, where the names that are left out are filled in as missing. -/
def namelessTree : Node :=
  .mk (.other "source_file") 0 64 none true false [
    .mk (.other "static_item") 0 64 none true false [
      .mk .identifier 7 8 (some "name") true false [],
      .mk .primitiveType 10 12 (some "type") true false [],
      .mk .callExpression 15 63 (some "value") true false [
        .mk .scopedIdentifier 15 51 (some "function") true false [
          .mk .bracketedType 15 39 (some "path") true false [
            .mk .scopedTypeIdentifier 26 28 none true false [
              .mk .typeIdentifier 28 28 (some "name") true true []]],
          .mk .identifier 51 51 (some "name") true true []],
        .mk (.other "arguments") 61 63 (some "arguments") true false []]]]

/-- A file with an error that no tolerant analysis reports, since there is no outcome. -/
theorem tolerant_without_outcome :
    namelessTree.hasError = true ∧ NamesFunctions namelessText namelessTree ∧
      analyzeWith (fun _ => namelessTree) ⟨[("src/q.rs", namelessText)]⟩ {} false none =
        .error (.resolution .emptyPath) :=
  ⟨by decide +kernel, by decide +kernel, rfl⟩

end Deadwood
