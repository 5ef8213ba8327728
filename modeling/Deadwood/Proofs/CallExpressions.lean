/-
Which calls a file makes outside of macros.

A file is walked for its imports and then for its calls, and both walks come by the same
places.  The general walk over a tree describes all three:

* **`places_eq`** — the places are those that the nodes on a walk are by themselves,
  if the walk does not look into macros, foreign blocks, attributes and use items;
* **`imports_extract`**, **`ofModule_foldl_declare`** — the table of a module is made of
  the use declarations in that module;
* **`calls_extract`** — what is not found in the tokens of a macro is the call of a
  call expression, and a call expression has one or none (`callOf?_eq_some_iff`);
* **`FileCalls.calls_exact`** — hence the calls of a file, for every tree.

Qualifying a path takes the finished tables and the module around the call, nothing
else (`qualify_congr`), unless the path begins with `Self`.
-/
import Deadwood.Proofs.Aliases
import Deadwood.Proofs.Callers
import Deadwood.Proofs.Walk
import Mathlib.Data.List.Forall2

namespace Deadwood

open Syntax

/-- The kinds of node that a walk for calls does not look into. -/
def callStops : List Kind := [.foreignModItem, .macroDefinition, .macroInvocation, .attributeItem, .useDeclaration]

/-! ### Places along the walk -/

/-- The places that a node is by itself. -/
def placesHere (source : Source) (scope : Scope) (node : Node) : List Place :=
  match node.kind with
  | .functionItem => if (enterable? source node).isSome then [] else [.broken node]
  | .useDeclaration => [.use scope node]
  | .macroInvocation =>
    (node.children.filter fun child => child.named && child.kind == .tokenTree).map (.tokens scope)
  | .callExpression => [.call scope node]
  | _ => []

section

variable {source : Source} {scope : Scope} {node : Node}

theorem placesIn_of_function (kind : node.kind = .functionItem) :
    placesIn source scope node =
      placesHere source scope node ++
        match enterable? source node with
        | none => []
        | some name => placesInFunction source (scope.enter .function name) node.children := by
  obtain ⟨_, start, stop, field, named, missing, children⟩ := node
  obtain rfl := kind
  rw [placesIn, placesHere]
  simp only [Node.kind, Node.children]
  cases enterable? source (.mk .functionItem start stop field named missing children) with
  | none => rfl
  | some name => rfl

theorem placesIn_of_module (kind : node.kind = .modItem) :
    placesIn source scope node =
      match moduleName? source node with
      | none => []
      | some name => placesInBody source (scope.enter .module name) node.children := by
  obtain ⟨_, start, stop, field, named, missing, children⟩ := node
  obtain rfl := kind
  rw [placesIn]
  rfl

theorem placesIn_of_owner (kind : node.kind ∈ [Kind.implItem, .traitItem]) :
    placesIn source scope node =
      placesInBody source (scope.enter .owner (Owner.ofItem source node).name) node.children := by
  obtain ⟨_, start, stop, field, named, missing, children⟩ := node
  rcases List.mem_pair.mp kind with rfl | rfl
  · rw [placesIn]
    rfl
  · rw [placesIn]
    rfl

theorem placesIn_of_plain (plain : node.kind ∉ itemKinds) :
    placesIn source scope node =
      placesHere source scope node ++
        if node.kind ∈ callStops then [] else placesAmong source scope node.children := by
  obtain ⟨kind, start, stop, field, named, missing, children⟩ := node
  cases kind with
  | functionItem | modItem | implItem | traitItem => exact absurd plain (by simp [itemKinds, Node.kind])
  | foreignModItem | macroDefinition | attributeItem | useDeclaration =>
    rw [placesIn]
    rfl
  | macroInvocation =>
    rw [placesIn]
    exact (List.append_nil _).symm
  | _ => simp [placesIn, placesHere, callStops, Node.kind, Node.children]

end

/-- The places at a visit and below it, in a file whose module is given. -/
def placesAt (source : Source) (base : List String) (v : Visit) : List Place :=
  placesIn source ⟨base, v.frames⟩ v.node

theorem placesAmong_eq (source : Source) (base : List String) (address : List Nat) (frames : List Frame)
    (owner : Option Owner) (nodes : List Node) :
    placesAmong source ⟨base, frames⟩ nodes =
      (amongVisits address frames owner [] nodes).flatMap (placesAt source base) :=
  eq_flatMap_amongVisits (fun _ nodes => placesAmong source ⟨base, frames⟩ nodes) (fun _ => by rw [placesAmong])
    (fun _ _ _ => by rw [placesAmong]; rfl) [] nodes

theorem placesInFunction_eq (source : Source) (base : List String) (address : List Nat) (frames : List Frame)
    (nodes : List Node) :
    placesInFunction source ⟨base, frames⟩ nodes =
      (functionVisits address frames nodes).flatMap (placesAt source base) :=
  eq_flatMap_functionVisits (fun _ nodes => placesInFunction source ⟨base, frames⟩ nodes)
    (fun _ => by rw [placesInFunction]) (fun _ _ _ => by rw [placesInFunction]; rfl) nodes

theorem placesInBody_eq (source : Source) (base : List String) (address : List Nat) (frames : List Frame)
    (owner : Option Owner) (nodes : List Node) :
    placesInBody source ⟨base, frames⟩ nodes =
      (bodyVisits address frames owner nodes).flatMap (placesAt source base) := by
  refine eq_flatMap_bodyVisits ?_ (fun node rest => ?_)
    (fun address nodes => placesAmong_eq source base address frames owner nodes) nodes
  · rw [placesInBody]
  · cases node
    rw [placesInBody]
    rfl

/-- The places that a visited node is by itself, in a file whose module is given. -/
def Visit.places (source : Source) (base : List String) (v : Visit) : List Place :=
  placesHere source ⟨base, v.frames⟩ v.node

/-- A node is some places by itself, and places are passed on from one step below. -/
theorem placesAt_step (source : Source) (base : List String) (v : Visit) :
    placesAt source base v =
      v.places source base ++ (partVisits callStops source v).flatMap (placesAt source base) := by
  rw [placesAt]
  by_cases item : v.node.kind ∈ itemKinds
  · rcases mem_itemKinds.mp item with kind | kind | kind
    · rw [placesIn_of_function kind, partVisits_of_function kind]
      cases enterable? source v.node with
      | none => rfl
      | some name => exact congrArg _ (placesInFunction_eq ..)
    · have hhere : v.places source base = [] := by
        simp only [Visit.places, placesHere, kind]
      rw [placesIn_of_module kind, partVisits_of_module kind, hhere]
      cases moduleName? source v.node with
      | none => rfl
      | some name => exact placesInBody_eq ..
    · have hhere : v.places source base = [] := by
        rcases List.mem_pair.mp kind with kind | kind
        · simp only [Visit.places, placesHere, kind]
        · simp only [Visit.places, placesHere, kind]
      rw [placesIn_of_owner kind, partVisits_of_owner kind, hhere]
      exact placesInBody_eq ..
  · rw [placesIn_of_plain item, partVisits_of_plain item]
    split
    · rfl
    · exact congrArg _ (placesAmong_eq ..)

/-- The places of a file are those that the nodes on the walk are. -/
theorem places_eq (file : String) (source : Source) (root : Node) :
    places file source root =
      (walk callStops source root).flatMap (·.places source (ModulePath.ofFile file)) := by
  have hgather := gather (placesAt_step source (ModulePath.ofFile file))
  rw [places, Scope.ofFile, placesAmong_eq _ _ [] [] none, funext hgather, ← List.flatMap_assoc, ← walk]

/-! ### Imports -/

/-- The use declarations that a walk from a root meets. -/
def useDeclarations (source : Source) (root : Node) : List Visit :=
  (walk callStops source root).filter (·.node.kind = .useDeclaration)

theorem mem_useDeclarations {source : Source} {root : Node} {v : Visit} :
    v ∈ useDeclarations source root ↔ Reached callStops source root v ∧ v.node.kind = .useDeclaration := by
  rw [useDeclarations, List.mem_filter, mem_walk_iff, decide_eq_true_iff]

/-- Only use declarations declare imports. -/
theorem foldl_declare_places (source : Source) (base : List String) (imports : Imports) (v : Visit) :
    (v.places source base).foldl (Place.declare source) imports =
      if v.node.kind = .useDeclaration then imports.declare source ⟨base, v.frames⟩ v.node else imports := by
  rw [Visit.places, placesHere]
  split
  · split <;> simp_all [Place.declare]
  · simp_all [Place.declare]
  · simp_all [Place.declare, List.foldl_map]
  · simp_all [Place.declare]
  · simp_all

/-- The imports of a file are declared by its use declarations, in the order of the text. -/
theorem imports_extract (file : String) (source : Source) (root : Node) :
    (FileCalls.extract file source root).imports =
      (useDeclarations source root).foldl
        (fun imports v => imports.declare source ⟨ModulePath.ofFile file, v.frames⟩ v.node) {} := by
  rw [FileCalls.imports_eq, importsOf, places_eq, List.foldl_flatMap, useDeclarations, List.foldl_filter]
  simp only [foldl_declare_places, decide_eq_true_eq]

/-- The table of a module after the bindings of a use declaration are entered in it. -/
def Visit.enterBindings (source : Source) (base : List String) (table : OrderedMap String String) (v : Visit) :
    OrderedMap String String :=
  (fieldBindings source [] "argument" v.node.children).foldl (Binding.record ⟨base, v.frames⟩) table

theorem ofModule_declare (source : Source) (imports : Imports) (scope : Scope) (item : Node) (module : String) :
    (imports.declare source scope item).ofModule module =
      if scope.modulePath = module then
        (fieldBindings source [] "argument" item.children).foldl (Binding.record scope) (imports.ofModule module)
      else imports.ofModule module := by
  rw [Imports.declare, Imports.ofModule, OrderedMap.modify, OrderedMap.get?_insert]
  by_cases h : scope.modulePath = module
  · rw [if_pos h, if_pos h.symm, h]
    rfl
  · rw [if_neg h, if_neg (Ne.symm h)]
    rfl

/-- The table of a module comes from the use declarations of that module alone. -/
theorem ofModule_foldl_declare (source : Source) (base : List String) (uses : List Visit) (imports : Imports)
    (module : String) :
    (uses.foldl (fun imports v => imports.declare source ⟨base, v.frames⟩ v.node) imports).ofModule module =
      (uses.filter fun v => Scope.modulePath ⟨base, v.frames⟩ = module).foldl (Visit.enterBindings source base)
        (imports.ofModule module) := by
  induction uses generalizing imports with
  | nil => rfl
  | cons v rest ih =>
    rw [List.foldl_cons, ih, ofModule_declare, List.filter_cons]
    by_cases h : Scope.modulePath ⟨base, v.frames⟩ = module
    · rw [if_pos h, if_pos (decide_eq_true h), List.foldl_cons, Visit.enterBindings]
    · rw [if_neg h, if_neg (by simpa using h)]

/-! ### Calls -/

/-- The callee of a call expression, without one layer of type arguments. -/
inductive HasCallee (expression : Node) : Node → Prop where
  | plain {callee : Node} (function : expression.child? "function" = some callee)
      (kind : callee.kind ≠ .genericFunction) : HasCallee expression callee
  | applied {generic callee : Node} (function : expression.child? "function" = some generic)
      (kind : generic.kind = .genericFunction) (inner : generic.child? "function" = some callee) :
      HasCallee expression callee

/-- The kinds of callee that are a path. -/
def pathKinds : List Kind := [.identifier, .scopedIdentifier, .selfKeyword, .superKeyword, .crateKeyword]

/-- A call expression with a callee that can be named: a field with a name, or a path. -/
inductive Callable (source : Source) (expression : Node) : Prop where
  | method {callee field : Node} (called : HasCallee expression callee) (kind : callee.kind = .fieldExpression)
      (fieldAt : callee.child? "field" = some field) (named : field.kind = .fieldIdentifier)
  | path {callee : Node} (called : HasCallee expression callee) (kind : callee.kind ∈ pathKinds)
      (segments : pathSegments source callee ≠ [])

/-- The call of a call expression at a scope. -/
inductive CallOf (file : String) (source : Source) (imports : Imports) (scope : Scope) (expression : Node) :
    CallSite → Prop where
  | method {callee field : Node} (called : HasCallee expression callee) (kind : callee.kind = .fieldExpression)
      (fieldAt : callee.child? "field" = some field) (named : field.kind = .fieldIdentifier) :
      CallOf file source imports scope expression
        { callee := source.text field, file, span := source.span expression, enclosing := scope.enclosing
          path := none
          resolved :=
            if (callee.child? "value").any (·.kind == .selfKeyword) then ownMethodPath? scope (source.text field)
            else none
          isMethodCall := true, fromMacro := false }
  | path {callee : Node} {name : String} (called : HasCallee expression callee) (kind : callee.kind ∈ pathKinds)
      (last : (pathSegments source callee).getLast? = some name) :
      CallOf file source imports scope expression
        { callee := name, file, span := source.span expression, enclosing := scope.enclosing
          path := (qualify imports scope (pathSegments source callee)).1
          resolved := (qualify imports scope (pathSegments source callee)).2
          isMethodCall := false, fromMacro := false }

theorem HasCallee.unique {expression callee callee' : Node} (h : HasCallee expression callee)
    (h' : HasCallee expression callee') : callee = callee' := by
  cases h with
  | plain function kind =>
    cases h' with
    | plain function' _ => exact Option.some.inj (function.symm.trans function')
    | applied function' kind' _ =>
      obtain rfl := Option.some.inj (function.symm.trans function')
      exact absurd kind' kind
  | applied function kind inner =>
    cases h' with
    | plain function' kind' =>
      obtain rfl := Option.some.inj (function.symm.trans function')
      exact absurd kind kind'
    | applied function' _ inner' =>
      obtain rfl := Option.some.inj (function.symm.trans function')
      exact Option.some.inj (inner.symm.trans inner')

/-- The callee of a call expression is a path with the given segments. -/
def CallsPath (source : Source) (expression : Node) (segments : List String) : Prop :=
  ∃ callee, HasCallee expression callee ∧ callee.kind ∈ pathKinds ∧ pathSegments source callee = segments

theorem calleeNode?_eq_some_iff {expression callee : Node} (hkind : callee.kind ≠ .genericFunction) :
    calleeNode? expression = some callee ↔ HasCallee expression callee := by
  rw [calleeNode?]
  constructor
  · intro h
    obtain ⟨function, hfunction, rfl⟩ := Option.map_eq_some_iff.mp h
    by_cases hgeneric : function.kind = .genericFunction
    · rw [if_pos (beq_iff_eq.mpr hgeneric)] at hkind ⊢
      cases hinner : function.child? "function" with
      | none =>
        rw [hinner] at hkind
        exact absurd hgeneric hkind
      | some inner => exact .applied hfunction hgeneric hinner
    · rw [if_neg fun h => hgeneric (beq_iff_eq.mp h)]
      exact .plain hfunction hgeneric
  · intro h
    cases h with
    | plain function kind => simp [function, kind]
    | applied function kind inner => simp [function, kind, inner]

/-- The call of a call expression with a given callee. -/
def callWith? (file : String) (source : Source) (imports : Imports) (scope : Scope) (expression callee : Node) :
    Option CallSite :=
  if callee.kind = .fieldExpression then
    ((callee.child? "field").filter (·.kind == .fieldIdentifier)).map fun field =>
      methodCall file source scope expression (source.text field)
        ((callee.child? "value").any (·.kind == .selfKeyword)) false
  else if callee.kind ∈ pathKinds then
    pathCall? file source imports scope expression (pathSegments source callee) false
  else none

section

variable {file : String} {source : Source} {imports : Imports} {scope : Scope} {expression : Node} {call : CallSite}

theorem callOf?_eq :
    callOf? file source imports scope expression =
      (calleeNode? expression).bind (callWith? file source imports scope expression) := by
  rw [callOf?]
  congr 1
  funext callee
  rw [callWith?]
  split <;> simp_all [pathKinds]

theorem callOf?_eq_some_iff :
    callOf? file source imports scope expression = some call ↔
      CallOf file source imports scope expression call := by
  rw [callOf?_eq, Option.bind_eq_some_iff]
  constructor
  · rintro ⟨callee, hcallee, h⟩
    rw [callWith?] at h
    split at h
    · rename_i hfield
      obtain ⟨field, hfilter, rfl⟩ := Option.map_eq_some_iff.mp h
      obtain ⟨hat, hnamed⟩ := Option.filter_eq_some_iff.mp hfilter
      have hcalled := (calleeNode?_eq_some_iff (by rw [hfield]; decide)).mp hcallee
      exact .method hcalled hfield hat (beq_iff_eq.mp hnamed)
    · split at h
      · rename_i hpath
        obtain ⟨name, hlast, rfl⟩ := Option.map_eq_some_iff.mp h
        have hcalled := (calleeNode?_eq_some_iff fun hgeneric => absurd hpath (by rw [hgeneric]; decide)).mp hcallee
        exact .path hcalled hpath hlast
      · exact absurd h (by simp)
  · intro h
    cases h with
    | @method callee field called kind fieldAt named =>
      have hfilter : (callee.child? "field").filter (·.kind == .fieldIdentifier) = some field :=
        Option.filter_eq_some_iff.mpr ⟨fieldAt, beq_iff_eq.mpr named⟩
      refine ⟨callee, (calleeNode?_eq_some_iff (by rw [kind]; decide)).mpr called, ?_⟩
      rw [callWith?, if_pos kind, hfilter]
      rfl
    | @path callee name called kind last =>
      have hgeneric : callee.kind ≠ .genericFunction := fun hgeneric => absurd kind (by rw [hgeneric]; decide)
      have hfield : callee.kind ≠ .fieldExpression := fun hfield => absurd kind (by rw [hfield]; decide)
      refine ⟨callee, (calleeNode?_eq_some_iff hgeneric).mpr called, ?_⟩
      rw [callWith?, if_neg hfield, if_pos kind, pathCall?, last]
      rfl

/-- A call expression has a call if its callee can be named, whatever is imported. -/
theorem callOf?_isSome_iff :
    (callOf? file source imports scope expression).isSome = true ↔ Callable source expression := by
  rw [Option.isSome_iff_exists]
  constructor
  · rintro ⟨call, h⟩
    cases callOf?_eq_some_iff.mp h with
    | method called kind fieldAt named => exact .method called kind fieldAt named
    | path called kind last =>
      refine .path called kind fun hnil => ?_
      rw [hnil] at last
      exact absurd last (by simp)
  · intro h
    cases h with
    | method called kind fieldAt named => exact ⟨_, callOf?_eq_some_iff.mpr (.method called kind fieldAt named)⟩
    | path called kind segments =>
      exact ⟨_, callOf?_eq_some_iff.mpr (.path called kind (List.getLast?_eq_some_getLast segments))⟩

theorem CallOf.fromMacro_eq (h : CallOf file source imports scope expression call) : call.fromMacro = false := by
  cases h <;> rfl

/-- The call of a path is qualified as the path is. -/
theorem CallOf.qualified (h : CallOf file source imports scope expression call) {segments : List String}
    (hpath : CallsPath source expression segments) :
    (call.path, call.resolved) = qualify imports scope segments := by
  obtain ⟨callee, hcallee, hkind, rfl⟩ := hpath
  cases h with
  | method called kind _ _ =>
    obtain rfl := called.unique hcallee
    rw [kind] at hkind
    exact absurd hkind (by decide)
  | path called _ _ =>
    obtain rfl := called.unique hcallee
    rfl

theorem fromMacro_callBefore? {front : List Node} (h : callBefore? file source imports scope front = some call) :
    call.fromMacro = true := by
  rcases callBefore?_cases h with ⟨node, name, onSelf, rfl⟩ | ⟨node, segments, hpath⟩
  · rfl
  · obtain ⟨callee, -, rfl⟩ := Option.map_eq_some_iff.mp hpath
    rfl

end

/-- The call expressions that a walk from a root meets. -/
def callExpressions (source : Source) (root : Node) : List Visit :=
  (walk callStops source root).filter (·.node.kind = .callExpression)

theorem mem_callExpressions {source : Source} {root : Node} {v : Visit} :
    v ∈ callExpressions source root ↔ Reached callStops source root v ∧ v.node.kind = .callExpression := by
  rw [callExpressions, List.mem_filter, mem_walk_iff, decide_eq_true_iff]

/-- Outside of macros, only call expressions are calls. -/
theorem filter_callsAt_places (file : String) (source : Source) (imports : Imports) (base : List String) (v : Visit) :
    ((v.places source base).flatMap (callsAt file source imports)).filter (!·.fromMacro) =
      if v.node.kind = .callExpression then (callOf? file source imports ⟨base, v.frames⟩ v.node).toList else [] := by
  rw [Visit.places, placesHere]
  split
  · rename_i kind
    split <;> simp [callsAt, kind]
  · rename_i kind
    simp [callsAt, kind]
  · rename_i kind
    -- All that is found among tokens is marked as coming from a macro.
    rw [if_neg (by rw [kind]; decide), List.filter_eq_nil_iff]
    intro call hcall
    obtain ⟨place, hplace, hcall⟩ := List.mem_flatMap.mp hcall
    obtain ⟨tree, -, rfl⟩ := List.mem_map.mp hplace
    obtain ⟨front, hfront⟩ := exists_callBefore?_inTokens _ _ _ _ tree.children [] call hcall
    simp [fromMacro_callBefore? hfront]
  · rename_i kind
    rw [if_pos kind, List.flatMap_singleton, callsAt, List.filter_eq_self]
    intro call hcall
    have hcallOf := callOf?_eq_some_iff.mp (Option.mem_toList.mp hcall)
    simp [hcallOf.fromMacro_eq]
  · rename_i kind
    rw [if_neg kind]
    rfl

/-- The calls of a file outside of macros are those of the call expressions on the walk. -/
theorem calls_extract (file : String) (source : Source) (root : Node) :
    (FileCalls.extract file source root).calls.filter (!·.fromMacro) =
      (callExpressions source root).filterMap fun v =>
        callOf? file source (FileCalls.extract file source root).imports ⟨ModulePath.ofFile file, v.frames⟩ v.node := by
  rw [FileCalls.calls_eq, places_eq, List.flatMap_assoc, List.filter_flatMap, callExpressions,
    List.filterMap_eq_flatMap_toList, ← flatMap_ite_nil]
  simp only [filter_callsAt_places]

theorem forall₂_filterMap {α β : Type} (f : α → Option β) (items : List α) :
    List.Forall₂ (fun item result => f item = some result) (items.filter fun item => (f item).isSome)
      (items.filterMap f) := by
  induction items with
  | nil => exact .nil
  | cons item rest ih =>
    cases h : f item with
    | none => simpa [List.filter_cons, List.filterMap_cons, h] using ih
    | some result => simpa [List.filter_cons, List.filterMap_cons, h] using ih

/-! ### The effect of imports -/

theorem normalize?_congr {scope scope' : Scope} (hmodule : scope.moduleSegments = scope'.moduleSegments)
    {segments : List String} (hself : segments.head? ≠ some "Self") :
    scope.normalize? segments = scope'.normalize? segments := by
  unfold Scope.normalize?
  split <;> simp_all

/-- Within a module, a path is qualified in the same way everywhere, unless it begins in the owner around it. -/
theorem qualify_congr (imports : Imports) {scope scope' : Scope}
    (hmodule : scope.moduleSegments = scope'.moduleSegments) {segments : List String}
    (hself : ∀ next rest, segments ≠ "Self" :: next :: rest) :
    qualify imports scope segments = qualify imports scope' segments := by
  match segments with
  | [] => rfl
  | [name] => simp only [qualify, hmodule]
  | head :: next :: rest =>
    have hhead : (head :: next :: rest).head? ≠ some "Self" := by
      intro h
      obtain rfl := Option.some.inj h
      exact hself next rest rfl
    simp only [qualify, hmodule, normalize?_congr hmodule hhead]

namespace FileCalls

/-- **The calls of a file are those of its call expressions.**  The walk for imports leaves calls and diagnostics as
they are, and the walk for calls leaves the imports as they are.  The calls outside of macros belong, in the order of
the text and one each, to the call expressions that a walk from the root meets and whose callee can be named.  Their
paths are qualified by the imports of the whole file.  The table of a module is made of all use declarations in it and
of nothing else, wherever in the module they stand.  So one path that two calls of a module name means the same in both,
unless it begins in the owner around them. -/
theorem calls_exact (file : String) (source : Source) (root : Node) :
    (∀ findings : Findings,
      (pass file source root true findings).calls = findings.calls ∧
      (pass file source root true findings).diagnostics = findings.diagnostics ∧
      (pass file source root true findings).reported = findings.reported ∧
      (pass file source root false findings).imports = findings.imports) ∧
    (∃ found : List Visit,
      (∀ v, v ∈ found ↔
        Reached callStops source root v ∧ v.node.kind = .callExpression ∧ Callable source v.node) ∧
      found.Pairwise Visit.Before ∧
      List.Forall₂ (fun v call => CallOf file source (extract file source root).imports
          ⟨ModulePath.ofFile file, v.frames⟩ v.node call)
        found ((extract file source root).calls.filter (!·.fromMacro))) ∧
    (∃ uses : List Visit,
      (∀ v, v ∈ uses ↔ Reached callStops source root v ∧ v.node.kind = .useDeclaration) ∧
      uses.Pairwise Visit.Before ∧
      ∀ module, (extract file source root).imports.ofModule module =
        (uses.filter fun v => Scope.modulePath ⟨ModulePath.ofFile file, v.frames⟩ = module).foldl
          (Visit.enterBindings source (ModulePath.ofFile file)) {}) ∧
    ∀ (v v' : Visit) (call call' : CallSite) (segments : List String),
      CallOf file source (extract file source root).imports ⟨ModulePath.ofFile file, v.frames⟩ v.node call →
      CallOf file source (extract file source root).imports ⟨ModulePath.ofFile file, v'.frames⟩ v'.node call' →
      CallsPath source v.node segments → CallsPath source v'.node segments →
      Scope.moduleSegments ⟨ModulePath.ofFile file, v.frames⟩ =
        Scope.moduleSegments ⟨ModulePath.ofFile file, v'.frames⟩ →
      (∀ next rest, segments ≠ "Self" :: next :: rest) →
      call.path = call'.path ∧ call.resolved = call'.resolved := by
  have horder := pairwise_walk callStops source root
  refine ⟨fun findings => ?_, ⟨(callExpressions source root).filter fun v =>
      (callOf? file source (extract file source root).imports ⟨ModulePath.ofFile file, v.frames⟩ v.node).isSome,
    fun v => ?_, (horder.filter _).filter _, ?_⟩,
    ⟨useDeclarations source root, fun _ => mem_useDeclarations, horder.filter _, fun module => ?_⟩, ?_⟩
  · rw [pass_true, pass_false]
    exact ⟨rfl, rfl, rfl, rfl⟩
  · rw [List.mem_filter, mem_callExpressions, callOf?_isSome_iff, and_assoc]
  · rw [calls_extract]
    simp only [← callOf?_eq_some_iff]
    exact forall₂_filterMap _ _
  · rw [imports_extract, ofModule_foldl_declare]
    rfl
  · intro v v' call call' segments hcall hcall' hpath hpath' hmodule hself
    have hsame := (hcall.qualified hpath).trans
      ((qualify_congr _ hmodule hself).trans (hcall'.qualified hpath').symm)
    exact Prod.mk.inj hsame

/-- The text `fn f() { g() } use a::g; fn h() { g() }`. -/
def amidUseText : Source := .ofText "fn f() \x7b g() \x7d use a::g; fn h() \x7b g() \x7d"

/-- The call `g()` at a place of that text. -/
def amidUseExpression (start : Nat) : Node :=
  .mk .callExpression start (start + 3) none true false [
    .mk .identifier start (start + 1) (some "function") true false [],
    .mk (.other "arguments") (start + 1) (start + 3) (some "arguments") true false []]

/-- A function at a place of that text, with such a call in its body. -/
def amidUseFunction (start : Nat) : Node :=
  .mk .functionItem start (start + 14) none true false [
    .mk .identifier (start + 3) (start + 4) (some "name") true false [],
    .mk (.other "block") (start + 7) (start + 14) (some "body") true false [amidUseExpression (start + 9)]]

/-- The tree of that text: a name is called before and after it is imported. -/
def amidUseTree : Node :=
  .mk (.other "source_file") 0 39 none true false [
    amidUseFunction 0,
    .mk .useDeclaration 15 24 none true false [
      .mk .scopedIdentifier 19 23 (some "argument") true false [
        .mk .identifier 19 20 (some "path") true false [],
        .mk .identifier 22 23 (some "name") true false []]],
    amidUseFunction 25]

/-- A call in that tree. -/
def amidUseCall (caller : String) (column : Nat) : CallSite :=
  { callee := "g", file := "src/lib.rs", span := ⟨1, column, 1, column + 3⟩, enclosing := caller, path := some "a::g",
    resolved := some "a::g" }

theorem calls_exact_amid :
    (extract "src/lib.rs" amidUseText amidUseTree).calls = [amidUseCall "f" 10, amidUseCall "h" 35] ∧
      (pass "src/lib.rs" amidUseText amidUseTree true {}).calls = [] ∧
      (amidUseCall "f" 10).path = (amidUseCall "h" 35).path := by
  obtain ⟨hpasses, -, -, hsame⟩ := calls_exact "src/lib.rs" amidUseText amidUseTree
  have hcall : CallOf "src/lib.rs" amidUseText (extract "src/lib.rs" amidUseText amidUseTree).imports
      ⟨ModulePath.ofFile "src/lib.rs", [⟨.function, "f"⟩]⟩ (amidUseExpression 9) (amidUseCall "f" 10) :=
    callOf?_eq_some_iff.mp (by decide +kernel)
  have hcall' : CallOf "src/lib.rs" amidUseText (extract "src/lib.rs" amidUseText amidUseTree).imports
      ⟨ModulePath.ofFile "src/lib.rs", [⟨.function, "h"⟩]⟩ (amidUseExpression 34) (amidUseCall "h" 35) :=
    callOf?_eq_some_iff.mp (by decide +kernel)
  have hpath : CallsPath amidUseText (amidUseExpression 9) ["g"] :=
    ⟨_, .plain rfl (by decide), by decide, by decide +kernel⟩
  have hpath' : CallsPath amidUseText (amidUseExpression 34) ["g"] :=
    ⟨_, .plain rfl (by decide), by decide, by decide +kernel⟩
  refine ⟨by decide +kernel, (hpasses {}).1, ?_⟩
  exact (hsame ⟨[], [⟨.function, "f"⟩], none, [], amidUseExpression 9⟩
    ⟨[], [⟨.function, "h"⟩], none, [], amidUseExpression 34⟩ _ _ _ hcall hcall' hpath hpath' rfl (by simp)).1

end FileCalls

end Deadwood
