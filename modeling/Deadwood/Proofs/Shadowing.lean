/-
Functions nested in the functions around a call.

A plain call is looked up in the functions around it first, from the innermost
outwards.  What is around it is read off the path of the caller, so a function is found
in the scopes whose path is that of some function of the file (`Shelters`).

* **`Catalog.lexical?_of_longest`** — the look-up finds the function in the longest such
  scope;
* **`Reached.function_declared`** — every function that is open at a node is declared in
  the file, so each of them is such a scope;
* **`nested_function_shadows`** — hence a plain call reaches exactly the innermost
  nested function of its name, if its module does not import that name;
* **`import_over_nested`** — and if it does, the nested function is not found.
-/
import Deadwood.Proofs.Callees
import Deadwood.Proofs.FunctionItems
import Deadwood.Proofs.ProjectFunctions

namespace Deadwood

open Syntax
open ModulePath (split join isModuleBody)

/-- A function of the file has the path, and a free function of the name has it as its scope. -/
def Shelters (symbols : List Symbol) (path : List String) (name : String) : Prop :=
  (∃ s ∈ symbols, s.fullPath = join path) ∧
    ∃ s ∈ symbols, s.fullPath = join (path ++ [name]) ∧ s.isMethod = false

/-! ### The longest scope -/

namespace Catalog

variable {catalog : Catalog} {call : CallSite}

/-- A plain call reaches the nested function in the longest scope that has one. -/
theorem lexical?_of_longest {symbols : List Symbol}
    (hsymbols : ∀ s, s ∈ catalog.symbols ∧ s.file = call.file ↔ s ∈ symbols) (hpath : call.path = none)
    (hplain : call.isMethodCall = false) (hbody : isModuleBody call.enclosing = false) {around : List String}
    (hne : around ≠ []) (haround : around <+: split call.enclosing) (hshelters : Shelters symbols around call.callee)
    (hlongest : ∀ inner, inner <+: split call.enclosing → around.length < inner.length →
      ¬ Shelters symbols inner call.callee) :
    catalog.lexical? call = some ⟨call.file, join (around ++ [call.callee])⟩ := by
  have hknown : ∀ path, ⟨call.file, path⟩ ∈ catalog.keys ↔ ∃ s ∈ symbols, s.fullPath = path := by
    intro path
    simp only [mem_keys, ← hsymbols, Symbol.key, Key.mk.injEq, and_assoc]
  have hfree : ∀ path, (catalog.symbol? ⟨call.file, path⟩).any (!·.isMethod) = true ↔
      ∃ s ∈ symbols, s.fullPath = path ∧ s.isMethod = false := by
    intro path
    simp only [Option.any_eq_true, symbol?_eq_some_iff, ← hsymbols, Symbol.key, Key.mk.injEq,
      Bool.not_eq_true', and_assoc]
  -- The scopes are tried from the longest to the shortest.
  obtain ⟨longer, shorter, hstarts, hlonger⟩ := exists_longer_starts hne haround
  rw [lexical?, hpath, hplain, hbody]
  refine List.findSome?_eq_some_iff.mpr ⟨longer, around, shorter, hstarts, ?_, fun inner hinner => ?_⟩
  · rw [if_pos (contains_iff.mpr ((hknown _).mpr hshelters.1))]
    dsimp only
    rw [if_pos ((hfree _).mpr hshelters.2)]
  · obtain ⟨hpre, hlength⟩ := hlonger inner hinner
    have hnot := hlongest inner hpre hlength
    split
    · rename_i hcontains
      dsimp only
      rw [if_neg]
      intro hmethod
      exact hnot ⟨(hknown _).mp (contains_iff.mp hcontains), (hfree _).mp hmethod⟩
    · rfl

theorem resolve_of_lexical? {key : Key} (h : catalog.lexical? call = some key) :
    catalog.resolve call = .ok (.linked .lexical [key]) := by
  rw [resolve, h]

end Catalog

/-! ### The functions around a node -/

section

variable {closed closed' : List Kind} {source : Source} {root : Node}

/-- A walk that looks into more meets more. -/
theorem Reached.mono (hsub : closed' ⊆ closed) {v : Visit} (h : Reached closed source root v) :
    Reached closed' source root v := by
  obtain ⟨i, top, htop, hnamed, hsteps⟩ := h
  refine ⟨i, top, htop, hnamed, Relation.ReflTransGen.mono ?_ _ _ hsteps⟩
  intro a b hpass
  cases hpass with
  | function kind sound bodyAt => exact .function kind sound bodyAt
  | module kind sound bodyAt part named => exact .module kind sound bodyAt part named
  | member kind bodyAt part named => exact .member kind bodyAt part named
  | through plain looked part named => exact .through plain (fun hclosed => looked (hsub hclosed)) part named

/-- A function that is open at a node was opened by a function item above it. -/
theorem Reached.exists_item {v : Visit} (h : Reached closed source root v) {outer : List Frame} {name : String}
    (hopen : outer ++ [⟨.function, name⟩] <+: v.frames) :
    ∃ item, Reached closed source root item ∧ item.node.kind = .functionItem ∧
      enterable? source item.node = some name ∧ item.frames = outer := by
  obtain ⟨i, top, htop, hnamed, hsteps⟩ := h
  induction hsteps with
  | refl => exact absurd (List.prefix_nil.mp hopen) (by simp)
  | @tail u v hbefore hpass ih =>
    -- The frame was open before the last step, unless that step opened it.
    cases hpass with
    | function kind sound bodyAt =>
      rcases List.prefix_concat_iff.mp hopen with heq | hopen
      · obtain ⟨rfl, hframe⟩ := List.append_inj heq (by simpa using congrArg List.length heq)
        obtain rfl : name = _ := congrArg Frame.name (List.cons.inj hframe).1
        exact ⟨u, ⟨i, top, htop, hnamed, hbefore⟩, kind, sound, rfl⟩
      · exact ih hopen
    | module kind sound bodyAt part named =>
      rcases List.prefix_concat_iff.mp hopen with heq | hopen
      · exact absurd (List.append_inj_right' heq rfl) (by simp)
      · exact ih hopen
    | member kind bodyAt part named =>
      rcases List.prefix_concat_iff.mp hopen with heq | hopen
      · exact absurd (List.append_inj_right' heq rfl) (by simp)
      · exact ih hopen
    | through plain looked part named => exact ih hopen

/-- Every function that is open at a node of a file is declared in the file. -/
theorem Reached.function_declared {v : Visit} (h : Reached callStops source root v) {outer : List Frame}
    {name : String} (hopen : outer ++ [⟨.function, name⟩] <+: v.frames) (file : String) :
    ∃ s ∈ (FileSymbols.extract file source root).symbols,
      s.fullPath = join (ModulePath.ofFile file ++ (outer ++ [⟨.function, name⟩] : List Frame).map (·.name)) := by
  have hsub : declarationStops ⊆ callStops := by decide
  obtain ⟨item, hitem, hkind, hname, rfl⟩ := (h.mono hsub).exists_item hopen
  obtain ⟨s, hs, hpath⟩ := hitem.exists_symbol hkind hname file
  refine ⟨s, hs, hpath.trans ?_⟩
  rw [Scope.fullPath, Scope.segments, List.map_append, List.append_assoc]
  rfl

end

/-- A function that is open is one of the frames down to the innermost function. -/
theorem Scope.prefix_framesTo {frame : Frame} {outer frames : List Frame} (h : outer ++ [frame] <+: frames)
    (base : List String) : outer ++ [frame] <+: Scope.framesTo ⟨base, frames⟩ frame.kind := by
  induction frames using List.reverseRecOn with
  | nil => exact absurd (List.prefix_nil.mp h) (by simp)
  | append_singleton frames last ih =>
    have hframes := Scope.framesTo_enter ⟨base, frames⟩ frame.kind last.kind last.name
    rw [Scope.enter] at hframes
    rw [hframes]
    split
    · exact h
    · rename_i hkind
      rcases List.prefix_concat_iff.mp h with heq | h
      · obtain rfl : frame = last := by simpa using List.append_inj_right' heq rfl
        exact absurd rfl hkind
      · exact ih h

theorem Scope.framesTo_prefix (scope : Scope) (kind : FrameKind) : scope.framesTo kind <+: scope.frames := by
  rw [framesTo, ← List.reverse_suffix, List.reverse_reverse]
  exact List.dropWhile_suffix _

/-- In a function, the path of the caller has the segments down to the innermost function, if they can be read back. -/
theorem Scope.split_enclosing {scope : Scope} (hfunction : scope.framesTo .function ≠ [])
    (hne : ∀ segment ∈ scope.segments, segment ≠ "")
    (hseparable : ModulePath.Separable (scope.segments.map String.toList)) :
    split scope.enclosing = scope.base ++ (scope.framesTo .function).map (·.name) := by
  have hsub : (scope.base ++ (scope.framesTo .function).map (·.name)).Sublist scope.segments :=
    ((scope.framesTo_prefix .function).sublist.map _).append_left _
  have henclosing : scope.enclosing = join (scope.base ++ (scope.framesTo .function).map (·.name)) := by
    rw [enclosing]
    split
    · rename_i hnil
      exact absurd hnil hfunction
    · rfl
  rw [henclosing]
  exact ModulePath.split_join (fun segment hsegment => hne segment (hsub.subset hsegment))
    (hseparable.sublist (hsub.map _))

/-- A start of the segments of a scope that goes beyond its base is that of some of its frames. -/
theorem exists_frames_of_prefix {base : List String} {frames : List Frame} {path : List String}
    (h : path <+: base ++ frames.map (·.name)) (hlength : base.length ≤ path.length) :
    ∃ inner, inner <+: frames ∧ path = base ++ inner.map (·.name) := by
  refine ⟨frames.take (path.length - base.length), List.take_prefix _ _, ?_⟩
  calc
    path = (base ++ frames.map (·.name)).take path.length := List.prefix_iff_eq_take.mp h
    _ = base ++ (frames.map (·.name)).take (path.length - base.length) := by
      rw [List.take_append, List.take_of_length_le hlength]
    _ = base ++ (frames.take (path.length - base.length)).map (·.name) := by rw [List.map_take]

theorem qualify_of_plain {imports : Imports} {scope : Scope} {name : String}
    (h : (imports.ofModule scope.modulePath).get? name = none) :
    qualify imports scope [name] = (none, some (join (scope.moduleSegments ++ [name]))) := by
  rw [Scope.modulePath] at h
  simp only [qualify, h]

/-- **A nested function shadows what is declared outside.**  Let a call of a lone name be written in a function of a
file of a project, in a module that does not import the name.  It reaches exactly the function nested in the longest
start of the caller's path that is the path of a function with such a nested function.  In particular, if the names
around the call can be read back from their path, it reaches the function nested in a given function around the call,
unless something further in shelters another; this is so whatever else has that name. -/
theorem nested_function_shadows {files : List (String × Source × Node)} (hfiles : (files.map (·.1)).Nodup)
    {graph : CallGraph} (hgraph : FileFacts.graph (FileFacts.ofTrees files) = .ok graph) {file : String}
    {source : Source} {root : Node} (hfile : (file, source, root) ∈ files) {w : WrittenCall}
    (hw : Written source root w) {name : String} (hcallee : w.callee = .path [] name)
    (hbody : isModuleBody (w.scope file).enclosing = false)
    (himport : ((FileCalls.extract file source root).imports.ofModule (w.scope file).modulePath).get? name = none)
    {call : CallSite} (hcall : w.site file source (FileCalls.extract file source root).imports = call) :
    (∀ around, around ≠ [] → around <+: split (w.scope file).enclosing →
      Shelters (FileSymbols.extract file source root).symbols around name →
      (∀ inner, inner <+: split (w.scope file).enclosing → around.length < inner.length →
        ¬ Shelters (FileSymbols.extract file source root).symbols inner name) →
      graph.catalog.resolve call = .ok (.linked .lexical [⟨file, join (around ++ [name])⟩])) ∧
    ∀ (outer : List Frame) (g : String), outer ++ [⟨.function, g⟩] <+: w.frames →
      (∃ s ∈ (FileSymbols.extract file source root).symbols, s.isMethod = false ∧
        s.fullPath = Scope.fullPath ⟨ModulePath.ofFile file, outer ++ [⟨.function, g⟩]⟩ name) →
      (∀ inner, inner <+: (w.scope file).framesTo .function → outer.length + 1 < inner.length →
        ¬ Shelters (FileSymbols.extract file source root).symbols (Scope.segments ⟨ModulePath.ofFile file, inner⟩)
          name) →
      (∀ segment ∈ (w.scope file).segments, segment ≠ "") →
      ModulePath.Separable ((w.scope file).segments.map String.toList) →
      graph.catalog.resolve call = .ok (.linked .lexical
        [⟨file, Scope.fullPath ⟨ModulePath.ofFile file, outer ++ [⟨.function, g⟩]⟩ name⟩]) := by
  have hsite : call.callee = name ∧ call.file = file ∧ call.path = none ∧ call.isMethodCall = false ∧
      call.enclosing = (w.scope file).enclosing := by
    rw [← hcall, WrittenCall.site, hcallee, Callee.site, List.nil_append, qualify_of_plain himport]
    exact ⟨rfl, rfl, rfl, rfl, rfl⟩
  obtain ⟨rfl, hcallFile, hpath, hmethod, henclosing⟩ := hsite
  subst hcallFile
  have hlongest : ∀ around, around ≠ [] → around <+: split (w.scope call.file).enclosing →
      Shelters (FileSymbols.extract call.file source root).symbols around call.callee →
      (∀ inner, inner <+: split (w.scope call.file).enclosing → around.length < inner.length →
        ¬ Shelters (FileSymbols.extract call.file source root).symbols inner call.callee) →
      graph.catalog.resolve call = .ok (.linked .lexical [⟨call.file, join (around ++ [call.callee])⟩]) := by
    rw [← henclosing] at hbody ⊢
    intro around hne haround hshelters hinner
    exact Catalog.resolve_of_lexical? (Catalog.lexical?_of_longest
      (fun s => FileFacts.mem_catalog_iff hfiles hgraph hfile) hpath hmethod hbody hne haround hshelters hinner)
  refine ⟨hlongest, fun outer g hopen hnested hinner hne hseparable => ?_⟩
  have hto : outer ++ [⟨.function, g⟩] <+: (w.scope call.file).framesTo .function :=
    Scope.prefix_framesTo hopen (ModulePath.ofFile call.file)
  have hfunction : (w.scope call.file).framesTo .function ≠ [] := by
    intro hnil
    rw [hnil] at hto
    exact absurd (List.prefix_nil.mp hto) (by simp)
  have hsplit := Scope.split_enclosing hfunction hne hseparable
  obtain ⟨v, hreached, hframes⟩ := hw.reached
  rw [← hframes] at hopen
  have hdeclared := hreached.function_declared hopen call.file
  obtain ⟨s, hs, hfree, hnestedPath⟩ := hnested
  rw [Scope.fullPath, Scope.segments] at hnestedPath ⊢
  dsimp only at hnestedPath ⊢
  have hshelters : Shelters (FileSymbols.extract call.file source root).symbols
      (ModulePath.ofFile call.file ++ (outer ++ [⟨.function, g⟩] : List Frame).map (·.name)) call.callee :=
    ⟨hdeclared, s, hs, hnestedPath, hfree⟩
  refine hlongest _ ?_ ?_ hshelters ?_
  · simp
  · rw [hsplit]
    exact (List.prefix_append_right_inj _).mpr (hto.map _)
  · intro path hpath hlonger
    rw [hsplit] at hpath
    rw [List.length_append, List.length_map, List.length_append, List.length_singleton] at hlonger
    have hbase : (w.scope call.file).base.length = (ModulePath.ofFile call.file).length := rfl
    have hbeyond : (w.scope call.file).base.length ≤ path.length := by omega
    obtain ⟨inner, hprefix, rfl⟩ := exists_frames_of_prefix hpath hbeyond
    rw [List.length_append, List.length_map] at hlonger
    have hfurther : outer.length + 1 < inner.length := by omega
    exact hinner inner hprefix hfurther

/-- The text `use a::x; fn g() { fn f() {} f() }` for a name `x`. -/
def nestingText (imported : String) : Source :=
  .ofText ("use a::" ++ imported ++ "; fn g() \x7b fn f() \x7b\x7d f() \x7d")

/-- The call in it, if the name has one letter. -/
def nestedCallExpression : Node :=
  .mk .callExpression 29 32 none true false [
    .mk .identifier 29 30 (some "function") true false [],
    .mk (.other "arguments") 30 32 (some "arguments") true false []]

/-- The body of the function around it. -/
def nestingBody : Node :=
  .mk (.other "block") 17 34 (some "body") true false [
    .mk .functionItem 19 28 none true false [
      .mk .identifier 22 23 (some "name") true false [],
      .mk (.other "block") 26 28 (some "body") true false []],
    nestedCallExpression]

/-- The function around it. -/
def nestingFunction : Node :=
  .mk .functionItem 10 34 none true false [.mk .identifier 13 14 (some "name") true false [], nestingBody]

/-- The tree of that text. -/
def nestingTree : Node :=
  .mk (.other "source_file") 0 34 none true false [
    .mk .useDeclaration 0 9 none true false [
      .mk .scopedIdentifier 4 8 (some "argument") true false [
        .mk .identifier 4 5 (some "path") true false [],
        .mk .identifier 7 8 (some "name") true false []]],
    nestingFunction]

/-- A project with the nested function `f` in one file, and a function `f` in the module `a`. -/
def nestingFiles (imported : String) : List (String × Source × Node) :=
  [("src/lib.rs", nestingText imported, nestingTree), ("src/a.rs", bareText "f", bareTree)]

/-- The call as it is written. -/
def nestedCall : WrittenCall :=
  ⟨[⟨.function, "g"⟩], .path [] "f", nestedCallExpression, false⟩

/-- The call as it is recorded. -/
def nestedCallSite (imported : String) : CallSite :=
  nestedCall.site "src/lib.rs" (nestingText imported)
    (FileCalls.extract "src/lib.rs" (nestingText imported) nestingTree).imports

theorem written_nestedCall {imported : String} (h : imported ∈ ["f", "h"]) :
    Written (nestingText imported) nestingTree nestedCall := by
  have htext : enterable? (nestingText imported) nestingFunction = some "g" ∧
      pathSegments (nestingText imported) (.mk .identifier 29 30 (some "function") true false []) = [] ++ ["f"] := by
    rcases List.mem_pair.mp h with rfl | rfl <;> decide +kernel
  obtain ⟨hname, hsegments⟩ := htext
  have hbody : BodyAt nestingFunction.children 1 nestingBody := .second [] (by decide) rfl
  -- Into the body of the function, and to the second statement there.
  have hreached : Reached callStops (nestingText imported) nestingTree
      (.toPart [1, 1] [⟨.function, "g"⟩] none nestingBody.children 1 nestedCallExpression) := by
    refine ⟨1, _, rfl, rfl, .tail (.single (.function rfl hname hbody)) ?_⟩
    exact .through (by decide) (by decide) rfl rfl
  exact .expression hreached rfl (.path (.plain rfl (by decide)) (by decide) hsegments)

theorem nested_function_shadows_sample :
    ∃ graph, FileFacts.graph (FileFacts.ofTrees (nestingFiles "h")) = .ok graph ∧
      (∃ s ∈ graph.catalog.symbols, s.name = "f" ∧ s.file = "src/a.rs") ∧
      graph.catalog.resolve (nestedCallSite "h") = .ok (.linked .lexical [⟨"src/lib.rs", "g::f"⟩]) := by
  obtain ⟨graph, hgraph⟩ : ∃ graph, FileFacts.graph (FileFacts.ofTrees (nestingFiles "h")) = .ok graph := ⟨_, rfl⟩
  have hother : ∃ s ∈ graph.catalog.symbols, s.name = "f" ∧ s.file = "src/a.rs" := by
    rw [(CallGraph.records_build hgraph).catalog_eq]
    decide +kernel
  obtain ⟨-, hframes⟩ := nested_function_shadows (by decide) hgraph List.mem_cons_self
    (written_nestedCall (by decide)) rfl (by decide +kernel) (by decide +kernel) rfl
  refine ⟨graph, hgraph, hother, hframes [] "g" (List.prefix_refl _) (by decide +kernel) ?_ (by decide +kernel) ?_⟩
  · intro inner hinner hlonger
    have hlength : inner.length ≤ 1 := hinner.length_le
    simp only [List.length_nil] at hlonger
    omega
  · exact ModulePath.separable_of_colonFree (by decide +kernel)

/-- Imports come before nested functions: with `use a::f`, the call in the body that declares a function `f` reaches
the function of the module `a`, and only that. -/
theorem import_over_nested :
    ∃ graph, FileFacts.graph (FileFacts.ofTrees (nestingFiles "f")) = .ok graph ∧
      Written (nestingText "f") nestingTree nestedCall ∧ nestedCall.callee = .path [] "f" ∧
      Shelters (FileSymbols.extract "src/lib.rs" (nestingText "f") nestingTree).symbols ["g"] "f" ∧
      graph.catalog.resolve (nestedCallSite "f") = .ok (.linked .exact [⟨"src/a.rs", "a::f"⟩]) := by
  obtain ⟨graph, hgraph⟩ : ∃ graph, FileFacts.graph (FileFacts.ofTrees (nestingFiles "f")) = .ok graph := ⟨_, rfl⟩
  refine ⟨graph, hgraph, written_nestedCall (by decide), rfl, ⟨by decide +kernel, by decide +kernel⟩, ?_⟩
  rw [(CallGraph.records_build hgraph).catalog_eq]
  decide +kernel

end Deadwood
