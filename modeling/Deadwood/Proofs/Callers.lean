/-
Who makes a call.

Declarations and calls are found by two walks over the same tree.  A call names its
caller by the frames around it (`Scope.enclosing`), a declaration names itself by
the frames around it and its own name (`Scope.fullPath`).  The two agree:

* **`caller?_of_mem_places`** — the caller of a place is a function that the other
  walk declares, or there is no function around it;
* **`caller_declared`** — hence the caller of every call of a file is the body of a
  module or a function of that file;
* **`no_call_dropped`** — and linking the calls of any files never meets a caller
  that it does not know.

The walks differ in what they skip: attributes and use declarations are passed
over for calls, and macros hold calls but no declarations.  The induction is on
the tree, and `Placed` is what it carries: a place either stands in no function
that the subtree opened, or in one that the subtree declares.
-/
import Deadwood.Log
import Deadwood.Proofs.Declarations
import Deadwood.Proofs.Linking
import Deadwood.Proofs.Places

namespace Deadwood

open Syntax
open ModulePath (isModuleBody)

namespace Scope

/-- The path of the innermost function, if there is one. -/
def caller? (scope : Scope) : Option String :=
  match scope.framesTo .function with
  | [] => none
  | frames => some (ModulePath.join (scope.base ++ frames.map (·.name)))

theorem enclosing_of_caller? {scope : Scope} {path : String} (h : scope.caller? = some path) :
    scope.enclosing = path := by
  rw [caller?] at h
  rw [enclosing]
  cases hframes : scope.framesTo .function with
  | nil =>
    rw [hframes] at h
    exact absurd h (by simp)
  | cons frame rest =>
    rw [hframes] at h
    exact Option.some.inj h

theorem isModuleBody_enclosing {scope : Scope} (h : scope.caller? = none) :
    isModuleBody scope.enclosing = true := by
  rw [caller?] at h
  rw [enclosing]
  cases hframes : scope.framesTo .function with
  | nil => exact ModulePath.isModuleBody_join _
  | cons frame rest =>
    rw [hframes] at h
    exact absurd h (by simp)

theorem framesTo_enter (scope : Scope) (kind opened : FrameKind) (name : String) :
    (scope.enter opened name).framesTo kind =
      if opened = kind then scope.frames ++ [⟨opened, name⟩] else scope.framesTo kind := by
  rw [framesTo, enter, List.reverse_append, List.reverse_singleton, List.singleton_append, List.dropWhile_cons]
  by_cases h : opened = kind
  · simp [h]
  · simp [h, framesTo]

/-- In a function, the caller is that function. -/
theorem caller?_enter_function (scope : Scope) (name : String) :
    (scope.enter .function name).caller? = some (scope.fullPath name) := by
  rw [caller?, framesTo_enter, if_pos rfl]
  split
  · rename_i hnil
    exact absurd hnil (by simp)
  · rw [fullPath, segments, List.map_append, List.append_assoc]
    rfl

/-- In a module or an owner, the caller is still the function around it. -/
theorem caller?_enter (scope : Scope) {opened : FrameKind} (h : opened ≠ .function) (name : String) :
    (scope.enter opened name).caller? = scope.caller? := by
  rw [caller?, framesTo_enter, if_neg h]
  rfl

theorem caller?_ofFile (file : String) : (ofFile file).caller? = none :=
  rfl

end Scope

/-- The scope of a place; a broken function is in none. -/
def Place.scope? : Place → Option Scope
  | .use scope _ | .call scope _ | .tokens scope _ => some scope
  | .broken _ => none

/-- A place stands in the same function as a scope around it, or in one of some declared functions. -/
def Placed (source : Source) (declared : List Declaration) (outer : Scope) (place : Place) : Prop :=
  ∀ scope, place.scope? = some scope →
    scope.caller? = outer.caller? ∨
      ∃ d ∈ declared, ∃ name, enterable? source d.node = some name ∧ scope.caller? = some (d.fullPath name)

theorem Placed.mono {source : Source} {declared declared' : List Declaration} {outer : Scope} {place : Place}
    (hsub : declared ⊆ declared') (h : Placed source declared outer place) :
    Placed source declared' outer place := by
  intro scope hscope
  rcases h scope hscope with hsame | ⟨d, hd, hname⟩
  · exact Or.inl hsame
  · exact Or.inr ⟨d, hsub hd, hname⟩

/-- A frame that is no function does not change where a place stands. -/
theorem Placed.of_enter {source : Source} {declared : List Declaration} {outer : Scope} {place : Place}
    {opened : FrameKind} {name : String} (hopened : opened ≠ .function)
    (h : Placed source declared (outer.enter opened name) place) : Placed source declared outer place := by
  intro scope hscope
  have hplaced := h scope hscope
  rwa [outer.caller?_enter hopened] at hplaced

/-- What stands in the body of a declared function stands in that function or in one declared within. -/
theorem Placed.of_function {source : Source} {declared : List Declaration} {place : Place} {d : Declaration}
    {name : String} (hname : enterable? source d.node = some name)
    (h : Placed source declared (d.scope.enter .function name) place) :
    Placed source (d :: declared) d.scope place := by
  intro scope hscope
  rcases h scope hscope with hsame | ⟨d', hd', hname'⟩
  · rw [d.scope.caller?_enter_function] at hsame
    exact Or.inr ⟨d, List.mem_cons_self, name, hname, hsame⟩
  · exact Or.inr ⟨d', List.mem_cons_of_mem _ hd', hname'⟩

theorem placed_here {source : Source} {declared : List Declaration} {outer : Scope} {place : Place}
    (h : ∀ scope, place.scope? = some scope → scope = outer) : Placed source declared outer place :=
  fun scope hscope => Or.inl (by rw [h scope hscope])

mutual

theorem placed_in (source : Source) : ∀ (node : Node) (scope : Scope) (owner : Option Owner) (before : List Node),
    ∀ place ∈ placesIn source scope node, Placed source (declarationsIn source scope owner before node) scope place
  | .mk kind start stop field named missing children, scope, owner, before => by
    intro place hplace
    cases kind with
    -- Both walks enter these under the same name, if they enter them at all.
    | functionItem =>
      rw [placesIn] at hplace
      rw [declarationsIn]
      rcases Option.eq_none_or_eq_some (enterable? source (.mk .functionItem start stop field named missing children))
        with hname | ⟨name, hname⟩
      · rw [hname] at hplace
        obtain rfl := List.mem_singleton.mp hplace
        exact placed_here fun _ h => absurd h (by simp [Place.scope?])
      · rw [hname] at hplace ⊢
        exact Placed.of_function hname (placed_inFunction source children _ [] place hplace)
    | modItem =>
      rw [placesIn] at hplace
      rw [declarationsIn]
      rcases Option.eq_none_or_eq_some (moduleName? source (.mk .modItem start stop field named missing children))
        with hname | ⟨name, hname⟩
      · rw [hname] at hplace
        exact absurd hplace List.not_mem_nil
      · rw [hname] at hplace ⊢
        exact Placed.of_enter (by decide) (placed_inBody source children _ none place hplace)
    | implItem =>
      rw [placesIn] at hplace
      rw [declarationsIn]
      exact Placed.of_enter (by decide) (placed_inBody source children _ _ place hplace)
    | traitItem =>
      rw [placesIn] at hplace
      rw [declarationsIn]
      exact Placed.of_enter (by decide) (placed_inBody source children _ _ place hplace)
    -- Here one walk stops and the other does not, so there is a place but no new frame.
    | useDeclaration =>
      rw [placesIn] at hplace
      obtain rfl := List.mem_singleton.mp hplace
      exact placed_here fun _ h => (Option.some.inj h).symm
    | macroInvocation =>
      rw [placesIn] at hplace
      obtain ⟨tree, -, rfl⟩ := List.mem_map.mp hplace
      exact placed_here fun _ h => (Option.some.inj h).symm
    | foreignModItem => exact absurd hplace (by simp [placesIn])
    | macroDefinition => exact absurd hplace (by simp [placesIn])
    | attributeItem => exact absurd hplace (by simp [placesIn])
    | callExpression =>
      rw [placesIn] at hplace
      simp only [declarationsIn]
      rcases List.mem_cons.mp hplace with rfl | hplace
      · exact placed_here fun _ h => (Option.some.inj h).symm
      · exact placed_among source children scope none [] place hplace
    -- Every other node is passed through by both.
    | _ =>
      simp only [placesIn] at hplace
      simp only [declarationsIn]
      exact placed_among source children scope none [] place hplace

theorem placed_among (source : Source) : ∀ (nodes : List Node) (scope : Scope) (owner : Option Owner)
    (before : List Node), ∀ place ∈ placesAmong source scope nodes,
      Placed source (declarationsAmong source scope owner before nodes) scope place
  | [], scope, owner, before => by
    intro place hplace
    exact absurd hplace (by simp [placesAmong])
  | node :: rest, scope, owner, before => by
    intro place hplace
    rw [placesAmong] at hplace
    rw [declarationsAmong]
    rcases List.mem_append.mp hplace with hplace | hplace
    · split at hplace
      · rename_i hnamed
        rw [if_pos hnamed]
        exact (placed_in source node scope owner before place hplace).mono (List.subset_append_left _ _)
      · exact absurd hplace List.not_mem_nil
    · exact (placed_among source rest scope owner (node :: before) place hplace).mono
        (List.subset_append_right _ _)

theorem placed_inFunction (source : Source) : ∀ (nodes : List Node) (scope : Scope) (before : List Node),
    ∀ place ∈ placesInFunction source scope nodes,
      Placed source (declarationsInFunction source scope before nodes) scope place
  | [], scope, before => by
    intro place hplace
    exact absurd hplace (by simp [placesInFunction])
  | node :: rest, scope, before => by
    intro place hplace
    rw [placesInFunction] at hplace
    rw [declarationsInFunction]
    split at hplace
    · rename_i hbody
      rw [if_pos hbody]
      exact placed_in source node scope none before place hplace
    · rename_i hbody
      rw [if_neg hbody]
      exact placed_inFunction source rest scope (node :: before) place hplace

theorem placed_inBody (source : Source) : ∀ (nodes : List Node) (scope : Scope) (owner : Option Owner),
    ∀ place ∈ placesInBody source scope nodes,
      Placed source (declarationsInBody source scope owner nodes) scope place
  | [], scope, owner => by
    intro place hplace
    exact absurd hplace (by simp [placesInBody])
  | .mk kind start stop field named missing children :: rest, scope, owner => by
    intro place hplace
    rw [placesInBody] at hplace
    rw [declarationsInBody]
    split at hplace
    · rename_i hbody
      rw [if_pos hbody]
      exact placed_among source children scope owner [] place hplace
    · rename_i hbody
      rw [if_neg hbody]
      exact placed_inBody source rest scope owner place hplace

end

/-- The caller at a place of a file is a function that the file declares, if there is one. -/
theorem caller?_of_mem_places {file : String} {source : Source} {root : Node} {place : Place} {scope : Scope}
    (hplace : place ∈ places file source root) (hscope : place.scope? = some scope) :
    scope.caller? = none ∨
      ∃ d ∈ declarations file source root, ∃ name, enterable? source d.node = some name ∧
        scope.caller? = some (d.fullPath name) := by
  have hplaced := placed_among source root.children (Scope.ofFile file) none [] place hplace scope hscope
  rwa [Scope.caller?_ofFile] at hplaced

/-! ### Calls at a place -/

/-- A call that was written in a file at a scope. -/
def WrittenAt (file : String) (scope : Scope) (call : CallSite) : Prop :=
  call.file = file ∧ call.enclosing = scope.enclosing

theorem writtenAt_methodCall (file : String) (source : Source) (scope : Scope) (node : Node) (name : String)
    (onSelf fromMacro : Bool) : WrittenAt file scope (methodCall file source scope node name onSelf fromMacro) :=
  ⟨rfl, rfl⟩

theorem writtenAt_pathCall? {file : String} {source : Source} {imports : Imports} {scope : Scope} {node : Node}
    {segments : List String} {fromMacro : Bool} {call : CallSite}
    (h : pathCall? file source imports scope node segments fromMacro = some call) : WrittenAt file scope call := by
  rw [pathCall?] at h
  obtain ⟨callee, -, rfl⟩ := Option.map_eq_some_iff.mp h
  exact ⟨rfl, rfl⟩

theorem writtenAt_callOf? {file : String} {source : Source} {imports : Imports} {scope : Scope} {expression : Node}
    {call : CallSite} (h : callOf? file source imports scope expression = some call) :
    WrittenAt file scope call := by
  rw [callOf?] at h
  obtain ⟨callee, -, h⟩ := Option.bind_eq_some_iff.mp h
  split at h
  · obtain ⟨field, -, rfl⟩ := Option.map_eq_some_iff.mp h
    exact writtenAt_methodCall ..
  all_goals first
    | exact writtenAt_pathCall? h
    | exact absurd h (by simp)

/-- What is found in front of a group is a call of a method or of a path. -/
theorem callBefore?_cases {file : String} {source : Source} {imports : Imports} {scope : Scope}
    {before : List Node} {call : CallSite} (h : callBefore? file source imports scope before = some call) :
    (∃ node name onSelf, call = methodCall file source scope node name onSelf true) ∨
      ∃ node segments, pathCall? file source imports scope node segments true = some call := by
  unfold callBefore? at h
  split at h
  · exact absurd h (by simp)
  · split at h
    · dsimp only at h
      split at h
      · obtain ⟨callee, -, rfl⟩ := Option.map_eq_some_iff.mp h
        exact Or.inl ⟨_, callee, _, rfl⟩
      · exact absurd h (by simp)
      · exact Or.inr ⟨_, _, h⟩
    · exact absurd h (by simp)

theorem writtenAt_callBefore? {file : String} {source : Source} {imports : Imports} {scope : Scope}
    {before : List Node} {call : CallSite} (h : callBefore? file source imports scope before = some call) :
    WrittenAt file scope call := by
  rcases callBefore?_cases h with ⟨node, name, onSelf, rfl⟩ | ⟨node, segments, hpath⟩
  · exact writtenAt_methodCall ..
  · exact writtenAt_pathCall? hpath

mutual

/-- Every call in a token is found in front of some group in it. -/
theorem exists_callBefore?_inToken (file : String) (source : Source) (imports : Imports) (scope : Scope) :
    ∀ (token : Node) (before : List Node), ∀ call ∈ callsInToken file source imports scope before token,
      ∃ front, callBefore? file source imports scope front = some call
  | .mk kind start stop field named missing children, before => by
    intro call hcall
    rw [callsInToken.eq_def] at hcall
    dsimp only at hcall
    split at hcall
    · rcases List.mem_append.mp hcall with hcall | hcall
      · exact exists_callBefore?_inTokens file source imports scope children [] call hcall
      · split at hcall
        · exact ⟨before, Option.mem_toList.mp hcall⟩
        · exact absurd hcall List.not_mem_nil
    · exact absurd hcall List.not_mem_nil

theorem exists_callBefore?_inTokens (file : String) (source : Source) (imports : Imports) (scope : Scope) :
    ∀ (tokens before : List Node), ∀ call ∈ callsInTokens file source imports scope before tokens,
      ∃ front, callBefore? file source imports scope front = some call
  | [], before => by
    intro call hcall
    exact absurd hcall (by simp [callsInTokens])
  | token :: rest, before => by
    intro call hcall
    rw [callsInTokens] at hcall
    rcases List.mem_append.mp hcall with hcall | hcall
    · exact exists_callBefore?_inToken file source imports scope token before call hcall
    · exact exists_callBefore?_inTokens file source imports scope rest (token :: before) call hcall

end

/-- A call belongs to the scope of the place where it was found. -/
theorem writtenAt_callsAt {file : String} {source : Source} {imports : Imports} {place : Place} {call : CallSite}
    (h : call ∈ callsAt file source imports place) :
    ∃ scope, place.scope? = some scope ∧ WrittenAt file scope call := by
  cases place with
  | use scope item => exact absurd h (by simp [callsAt])
  | call scope expression => exact ⟨scope, rfl, writtenAt_callOf? (Option.mem_toList.mp h)⟩
  | tokens scope tree =>
    obtain ⟨front, hfront⟩ := exists_callBefore?_inTokens file source imports scope tree.children [] call h
    exact ⟨scope, rfl, writtenAt_callBefore? hfront⟩
  | broken function => exact absurd h (by simp [callsAt])

/-! ### Calls of files -/

theorem exists_place_of_mem_calls {file : String} {source : Source} {root : Node} {call : CallSite}
    (h : call ∈ (FileCalls.extract file source root).calls) :
    ∃ place ∈ places file source root, ∃ scope, place.scope? = some scope ∧ WrittenAt file scope call := by
  rw [FileCalls.calls_eq] at h
  obtain ⟨place, hplace, hcall⟩ := List.mem_flatMap.mp h
  exact ⟨place, hplace, writtenAt_callsAt hcall⟩

theorem file_of_mem_calls {file : String} {source : Source} {root : Node} {call : CallSite}
    (h : call ∈ (FileCalls.extract file source root).calls) : call.file = file := by
  obtain ⟨-, -, -, -, hfile, -⟩ := exists_place_of_mem_calls h
  exact hfile

/-- The caller of a call is the body of a module or a function of its file. -/
theorem caller_declared {file : String} {source : Source} {root : Node} {call : CallSite}
    (h : call ∈ (FileCalls.extract file source root).calls) :
    isModuleBody call.enclosing = true ∨
      ∃ s ∈ (FileSymbols.extract file source root).symbols, s.fullPath = call.enclosing := by
  obtain ⟨place, hplace, scope, hscope, -, henclosing⟩ := exists_place_of_mem_calls h
  rw [henclosing]
  rcases caller?_of_mem_places hplace hscope with hnone | ⟨d, hd, name, hname, hcaller⟩
  · exact Or.inl (Scope.isModuleBody_enclosing hnone)
  · obtain ⟨s, hs, hpath⟩ := FileSymbols.exists_symbol_of_declaration hd hname
    exact Or.inr ⟨s, hs, by rw [hpath, Scope.enclosing_of_caller? hcaller]⟩

/-! ### Linking the calls of files -/

/-- The facts of files that are given with their syntax trees. -/
def FileFacts.ofTrees (files : List (String × Source × Node)) : List FileFacts :=
  files.map fun (file, source, root) => .ofTree file source root

/-- A caller of a file is known to every catalog that has the functions of the file. -/
theorem callerKey_mem_keys {files : List (String × Source × Node)} {imports : Imports} {call : CallSite}
    (h : call ∈ (FileFacts.ofTrees files).flatMap fun facts => facts.calls.calls) :
    isModuleBody call.enclosing = true ∨
      CallGraph.callerKey call ∈
        (Catalog.ofProject ((FileFacts.ofTrees files).flatMap fun facts => facts.symbols.symbols) imports).keys := by
  obtain ⟨facts, hfacts, hcall⟩ := List.mem_flatMap.mp h
  obtain ⟨⟨file, source, root⟩, -, rfl⟩ := List.mem_map.mp hfacts
  refine (caller_declared hcall).imp_right ?_
  rintro ⟨s, hs, hpath⟩
  have hkey : s.key = CallGraph.callerKey call := by
    rw [Symbol.key, CallGraph.callerKey, hpath, file_of_mem_calls hcall, FileSymbols.file_of_mem_symbols hs]
  rw [← hkey, Catalog.mem_keys_ofProject]
  exact List.mem_map_of_mem (List.mem_flatMap.mpr ⟨_, hfacts, hs⟩)

theorem droppedCall_notMem_ofCall {catalog : Catalog} {call dropped : CallSite}
    (h : isModuleBody call.enclosing = true ∨ CallGraph.callerKey call ∈ catalog.keys) :
    LogEvent.droppedCall dropped ∉ LogEvent.ofCall catalog call := by
  have hknown : (!isModuleBody call.enclosing && !catalog.contains (CallGraph.callerKey call)) = false := by
    rcases h with h | h
    · simp [h]
    · simp [Catalog.contains_iff.mpr h]
  rw [LogEvent.ofCall]
  split
  · simp
  · dsimp only
    rw [hknown]
    split <;> simp
  · simp

/-- **The caller of every call is declared.**  Whatever the tree, the caller of a call of a file is the body of a
module or a function that the same file declares.  Hence in the graph of any files every caller is known, and no
call is dropped because its caller is not. -/
theorem no_call_dropped :
    (∀ (file : String) (source : Source) (root : Node), ∀ call ∈ (FileCalls.extract file source root).calls,
      isModuleBody call.enclosing = true ∨
        ∃ s ∈ (FileSymbols.extract file source root).symbols, s.fullPath = call.enclosing) ∧
    ∀ (files : List (String × Source × Node)) (graph : CallGraph),
      FileFacts.graph (FileFacts.ofTrees files) = .ok graph →
      (∀ call ∈ (FileFacts.ofTrees files).flatMap fun facts => facts.calls.calls,
        isModuleBody call.enclosing = true ∨ graph.catalog.contains (CallGraph.callerKey call) = true) ∧
      ∀ call, LogEvent.droppedCall call ∉ LogEvent.ofGraph (FileFacts.ofTrees files) graph := by
  refine ⟨fun file source root call hcall => caller_declared hcall, fun files graph hgraph => ?_⟩
  have hknown : ∀ call ∈ (FileFacts.ofTrees files).flatMap fun facts => facts.calls.calls,
      isModuleBody call.enclosing = true ∨ CallGraph.callerKey call ∈ graph.catalog.keys := by
    rw [(CallGraph.records_build hgraph).catalog_eq]
    exact fun call hcall => callerKey_mem_keys hcall
  refine ⟨fun call hcall => (hknown call hcall).imp_right Catalog.contains_iff.mpr, fun dropped hdropped => ?_⟩
  rcases List.mem_append.mp hdropped with hdropped | hdropped
  · obtain ⟨call, hcall, hmem⟩ := List.mem_flatMap.mp hdropped
    exact droppedCall_notMem_ofCall (hknown call hcall) hmem
  · exact absurd hdropped (by simp)

/-- The text `mod m { fn f() { h!(g()) } }`. -/
def sampleText : Source := .ofText "mod m \x7b fn f() \x7b h!(g()) \x7d \x7d"

/-- Its tree: a call in the tokens of a macro, in a function, in a module. -/
def sampleTree : Node :=
  .mk (.other "source_file") 0 28 none true false [
    .mk .modItem 0 28 none true false [
      .mk .identifier 4 5 (some "name") true false [],
      .mk (.other "declaration_list") 6 28 (some "body") true false [
        .mk .functionItem 8 26 none true false [
          .mk .identifier 11 12 (some "name") true false [],
          .mk (.other "block") 15 26 (some "body") true false [
            .mk .macroInvocation 17 24 none true false [
              .mk .identifier 17 18 (some "macro") true false [],
              .mk .tokenTree 19 24 none true false [
                .mk (.other "(") 19 20 none false false [],
                .mk .identifier 20 21 none true false [],
                .mk .tokenTree 21 23 none true false [
                  .mk (.other "(") 21 22 none false false [],
                  .mk (.other ")") 22 23 none false false []],
                .mk (.other ")") 23 24 none false false []]]]]]]]

/-- The call in the sample tree. -/
def sampleMacroCall : CallSite :=
  { callee := "g", file := "src/lib.rs", span := ⟨1, 21, 1, 22⟩, enclosing := "m::f", resolved := some "m::g",
    fromMacro := true }

theorem no_call_dropped_sample :
    sampleMacroCall ∈ (FileCalls.extract "src/lib.rs" sampleText sampleTree).calls ∧
      (∃ s ∈ (FileSymbols.extract "src/lib.rs" sampleText sampleTree).symbols, s.fullPath = "m::f") ∧
      ∃ graph, FileFacts.graph (FileFacts.ofTrees [("src/lib.rs", sampleText, sampleTree)]) = .ok graph ∧
        ∀ call, LogEvent.droppedCall call ∉
          LogEvent.ofGraph (FileFacts.ofTrees [("src/lib.rs", sampleText, sampleTree)]) graph := by
  have hcall : sampleMacroCall ∈ (FileCalls.extract "src/lib.rs" sampleText sampleTree).calls := by
    decide +kernel
  have hfunction : isModuleBody sampleMacroCall.enclosing ≠ true := by decide +kernel
  have hgraph : ∃ graph, FileFacts.graph (FileFacts.ofTrees [("src/lib.rs", sampleText, sampleTree)]) = .ok graph :=
    ⟨_, rfl⟩
  obtain ⟨graph, hgraph⟩ := hgraph
  exact ⟨hcall, (no_call_dropped.1 _ _ _ _ hcall).resolve_left hfunction, graph, hgraph,
    (no_call_dropped.2 _ graph hgraph).2⟩

end Deadwood
