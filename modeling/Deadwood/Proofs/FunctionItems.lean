/-
Which functions a file declares.

The declarations of a file are collected by a recursion over its tree, and then the
symbols by a pass over the declarations that keeps the first of each path.  Both are
described by the walk:

* **`declarations_eq`** — the declarations are the function items that a walk meets
  which does not look into foreign blocks and macros;
* **`Settled.run`** — the pass splits them into those that are the first with their
  path, those that repeat a path, and the broken ones (`Accounted`);
* **`FileSymbols.symbols_exact`** — hence the symbols of a file, for every tree.

The split is kept along the list of function items: each comes after all before it in
the text, so one more never takes a path from an earlier one.

A module without a name is not entered (`FileSymbols.unnamed_module_not_entered`):
what stands in it would have no path.
-/
import Deadwood.Proofs.Declarations
import Deadwood.Proofs.Tracking
import Mathlib.Data.List.Forall2

namespace Deadwood

open Syntax
open Relation (ReflTransGen)

/-- The kinds of node that hold no declarations. -/
def declarationStops : List Kind := [.foreignModItem, .macroDefinition, .macroInvocation]

/-! ### Declarations along the walk -/

section

variable {source : Source} {scope : Scope} {owner : Option Owner} {before : List Node} {node : Node}

theorem declarationsIn_of_function (kind : node.kind = .functionItem) :
    declarationsIn source scope owner before node =
      ⟨node, scope, owner, before⟩ ::
        match enterable? source node with
        | none => []
        | some name => declarationsInFunction source (scope.enter .function name) [] node.children := by
  obtain ⟨_, start, stop, field, named, missing, children⟩ := node
  obtain rfl := kind
  rw [declarationsIn]
  rfl

theorem declarationsIn_of_module (kind : node.kind = .modItem) :
    declarationsIn source scope owner before node =
      match moduleName? source node with
      | none => []
      | some name => declarationsInBody source (scope.enter .module name) none node.children := by
  obtain ⟨_, start, stop, field, named, missing, children⟩ := node
  obtain rfl := kind
  rw [declarationsIn]
  rfl

theorem declarationsIn_of_owner (kind : node.kind ∈ [Kind.implItem, .traitItem]) :
    declarationsIn source scope owner before node =
      declarationsInBody source (scope.enter .owner (Owner.ofItem source node).name)
        (some (Owner.ofItem source node)) node.children := by
  obtain ⟨_, start, stop, field, named, missing, children⟩ := node
  rcases List.mem_pair.mp kind with rfl | rfl
  · rw [declarationsIn]
    rfl
  · rw [declarationsIn]
    rfl

theorem declarationsIn_of_plain (plain : node.kind ∉ itemKinds) :
    declarationsIn source scope owner before node =
      if node.kind ∈ declarationStops then [] else declarationsAmong source scope none [] node.children := by
  obtain ⟨kind, start, stop, field, named, missing, children⟩ := node
  cases kind with
  | functionItem | modItem | implItem | traitItem => exact absurd plain (by simp [itemKinds, Node.kind])
  | foreignModItem | macroDefinition | macroInvocation =>
    rw [declarationsIn]
    rfl
  | _ => simp [declarationsIn, declarationStops, Node.kind, Node.children]

end

/-- The declaration of a function item at a visit, in a file whose module is given. -/
def Visit.declaration (base : List String) (v : Visit) : Declaration :=
  ⟨v.node, ⟨base, v.frames⟩, v.owner, v.before⟩

/-- The declarations at a visit and below it. -/
def declarationsAt (source : Source) (base : List String) (v : Visit) : List Declaration :=
  declarationsIn source ⟨base, v.frames⟩ v.owner v.before v.node

theorem declarationsAmong_eq (source : Source) (base : List String) (address : List Nat) (frames : List Frame)
    (owner : Option Owner) (nodes : List Node) :
    declarationsAmong source ⟨base, frames⟩ owner [] nodes =
      (amongVisits address frames owner [] nodes).flatMap (declarationsAt source base) :=
  eq_flatMap_amongVisits (declarationsAmong source ⟨base, frames⟩ owner) (fun _ => by rw [declarationsAmong])
    (fun _ _ _ => by rw [declarationsAmong]; rfl) [] nodes

theorem declarationsInFunction_eq (source : Source) (base : List String) (address : List Nat) (frames : List Frame)
    (nodes : List Node) :
    declarationsInFunction source ⟨base, frames⟩ [] nodes =
      (functionVisits address frames nodes).flatMap (declarationsAt source base) :=
  eq_flatMap_functionVisits (declarationsInFunction source ⟨base, frames⟩)
    (fun _ => by rw [declarationsInFunction]) (fun _ _ _ => by rw [declarationsInFunction]; rfl) nodes

theorem declarationsInBody_eq (source : Source) (base : List String) (address : List Nat) (frames : List Frame)
    (owner : Option Owner) (nodes : List Node) :
    declarationsInBody source ⟨base, frames⟩ owner nodes =
      (bodyVisits address frames owner nodes).flatMap (declarationsAt source base) := by
  refine eq_flatMap_bodyVisits ?_ (fun node rest => ?_)
    (fun address nodes => declarationsAmong_eq source base address frames owner nodes) nodes
  · rw [declarationsInBody]
  · cases node
    rw [declarationsInBody]
    rfl

/-- A function item is a declaration, and declarations are passed on from one step below. -/
theorem declarationsAt_step (source : Source) (base : List String) (v : Visit) :
    declarationsAt source base v =
      (if v.node.kind = .functionItem then [v.declaration base] else []) ++
        (partVisits declarationStops source v).flatMap (declarationsAt source base) := by
  rw [declarationsAt]
  by_cases item : v.node.kind ∈ itemKinds
  -- Whatever the kind, the recursion goes to the parts that the walk goes to.
  · rcases mem_itemKinds.mp item with kind | kind | kind
    · rw [declarationsIn_of_function kind, partVisits_of_function kind, if_pos kind]
      cases enterable? source v.node with
      | none => rfl
      | some name => exact congrArg _ (declarationsInFunction_eq ..)
    · rw [declarationsIn_of_module kind, partVisits_of_module kind, if_neg (by rw [kind]; decide)]
      cases moduleName? source v.node with
      | none => rfl
      | some name => exact declarationsInBody_eq ..
    · rw [declarationsIn_of_owner kind, partVisits_of_owner kind,
        if_neg fun hfunction => absurd kind (by rw [hfunction]; decide)]
      exact declarationsInBody_eq ..
  · rw [declarationsIn_of_plain item, partVisits_of_plain item,
      if_neg fun hfunction => item (mem_itemKinds.mpr (Or.inl hfunction))]
    split
    · rfl
    · exact declarationsAmong_eq ..

/-- The function items that a walk from a root meets. -/
def functionItems (source : Source) (root : Node) : List Visit :=
  (walk declarationStops source root).filter (·.node.kind = .functionItem)

theorem mem_functionItems {source : Source} {root : Node} {v : Visit} :
    v ∈ functionItems source root ↔ Reached declarationStops source root v ∧ v.node.kind = .functionItem := by
  rw [functionItems, List.mem_filter, mem_walk_iff, decide_eq_true_iff]

theorem pairwise_functionItems (source : Source) (root : Node) :
    (functionItems source root).Pairwise Visit.Before :=
  (pairwise_walk declarationStops source root).filter _

/-- The declarations of a file are the function items that the walk meets. -/
theorem declarations_eq (file : String) (source : Source) (root : Node) :
    declarations file source root =
      (functionItems source root).map (·.declaration (ModulePath.ofFile file)) := by
  have hgather := gather (declarationsAt_step source (ModulePath.ofFile file))
  rw [functionItems, declarations, Scope.ofFile, declarationsAmong_eq _ _ [], funext hgather, ← List.flatMap_assoc,
    ← walk, flatMap_ite_nil, List.map_eq_flatMap]

/-- A sound function item that the walk meets gives its path to a function of the file. -/
theorem Reached.exists_symbol {source : Source} {root : Node} {v : Visit} (h : Reached declarationStops source root v)
    (hkind : v.node.kind = .functionItem) {name : String} (hname : enterable? source v.node = some name)
    (file : String) :
    ∃ s ∈ (FileSymbols.extract file source root).symbols,
      s.fullPath = Scope.fullPath ⟨ModulePath.ofFile file, v.frames⟩ name := by
  have hdeclared : v.declaration (ModulePath.ofFile file) ∈ declarations file source root := by
    rw [declarations_eq]
    exact List.mem_map_of_mem (mem_functionItems.mpr ⟨h, hkind⟩)
  obtain ⟨s, hs, hpath⟩ := FileSymbols.exists_symbol_of_declaration hdeclared hname
  exact ⟨s, hs, hpath⟩

/-! ### What becomes of the function items -/

/-- What becomes of the function items that are met, in the order of the text: each of them is the first with its
full path, repeats the path of an earlier one, or is broken. -/
structure Accounted (base : List String) (source : Source) (met firsts repeated broken : List Visit) : Prop where
  each_once : met.Perm (firsts ++ (repeated ++ broken))
  firsts_in_order : firsts.Sublist met
  repeated_in_order : repeated.Sublist met
  broken_in_order : broken.Sublist met
  of_firsts : ∀ v ∈ firsts, ∃ path, v.path? base source = some path ∧
    ∀ w ∈ met, w.path? base source = some path → w = v ∨ v.Before w
  of_repeated : ∀ v ∈ repeated, ∃ path, v.path? base source = some path ∧
    ∃ w ∈ firsts, w.path? base source = some path ∧ w.Before v
  of_broken : ∀ v ∈ broken, v.path? base source = none

namespace Accounted

variable {base : List String} {source : Source} {met firsts repeated broken : List Visit} {v : Visit} {path : String}

theorem nil (base : List String) (source : Source) : Accounted base source [] [] [] [] :=
  ⟨.nil, .slnil, .slnil, .slnil, by simp, by simp, by simp⟩

/-- A function item that comes later takes no path from the first with it. -/
theorem of_firsts_snoc (h : Accounted base source met firsts repeated broken) (hlast : ∀ w ∈ met, w.Before v) :
    ∀ u ∈ firsts, ∃ path, u.path? base source = some path ∧
      ∀ w ∈ met ++ [v], w.path? base source = some path → w = u ∨ u.Before w := by
  intro u hu
  obtain ⟨path, hpath, hfirst⟩ := h.of_firsts u hu
  refine ⟨path, hpath, fun w hw hwpath => ?_⟩
  rcases List.mem_append.mp hw with hw | hw
  · exact hfirst w hw hwpath
  · rw [List.mem_singleton.mp hw]
    exact Or.inr (hlast u (h.firsts_in_order.subset hu))

/-- A path that no first has is the path of none. -/
theorem path_ne (h : Accounted base source met firsts repeated broken)
    (hnew : ∀ w ∈ firsts, w.path? base source ≠ some path) : ∀ w ∈ met, w.path? base source ≠ some path := by
  intro w hw hpath
  rcases List.mem_append.mp (h.each_once.subset hw) with hw | hw
  · exact hnew w hw hpath
  rcases List.mem_append.mp hw with hw | hw
  · obtain ⟨path', hpath', u, hu, hupath, -⟩ := h.of_repeated w hw
    rw [hpath] at hpath'
    rw [← hpath'] at hupath
    exact hnew u hu hupath
  · rw [h.of_broken w hw] at hpath
    exact absurd hpath (by simp)

theorem snoc_first (h : Accounted base source met firsts repeated broken) (hlast : ∀ w ∈ met, w.Before v)
    (hpath : v.path? base source = some path) (hnew : ∀ w ∈ firsts, w.path? base source ≠ some path) :
    Accounted base source (met ++ [v]) (firsts ++ [v]) repeated broken where
  each_once := by
    rw [List.append_assoc]
    exact (h.each_once.append_right [v]).trans
      (by rw [List.append_assoc]; exact List.perm_append_comm.append_left firsts)
  firsts_in_order := h.firsts_in_order.append_right [v]
  repeated_in_order := h.repeated_in_order.trans (List.sublist_append_left met [v])
  broken_in_order := h.broken_in_order.trans (List.sublist_append_left met [v])
  of_firsts := by
    intro u hu
    rcases List.mem_append.mp hu with hu | hu
    · exact h.of_firsts_snoc hlast u hu
    · rw [List.mem_singleton.mp hu]
      refine ⟨path, hpath, fun w hw hwpath => ?_⟩
      rcases List.mem_append.mp hw with hw | hw
      · exact absurd hwpath (h.path_ne hnew w hw)
      · exact Or.inl (List.mem_singleton.mp hw)
  of_repeated := by
    intro u hu
    obtain ⟨path, hpath, w, hw, hwpath, hbefore⟩ := h.of_repeated u hu
    exact ⟨path, hpath, w, List.mem_append_left _ hw, hwpath, hbefore⟩
  of_broken := h.of_broken

theorem snoc_repeated (h : Accounted base source met firsts repeated broken) (hlast : ∀ w ∈ met, w.Before v)
    (hpath : v.path? base source = some path) (hold : ∃ w ∈ firsts, w.path? base source = some path) :
    Accounted base source (met ++ [v]) firsts (repeated ++ [v]) broken where
  each_once := by
    have hperm := h.each_once.append_right [v]
    rw [List.append_assoc, List.append_assoc] at hperm
    rw [List.append_assoc]
    exact hperm.trans ((List.perm_append_comm.append_left repeated).append_left firsts)
  firsts_in_order := h.firsts_in_order.trans (List.sublist_append_left met [v])
  repeated_in_order := h.repeated_in_order.append_right [v]
  broken_in_order := h.broken_in_order.trans (List.sublist_append_left met [v])
  of_firsts := h.of_firsts_snoc hlast
  of_repeated := by
    intro u hu
    rcases List.mem_append.mp hu with hu | hu
    · exact h.of_repeated u hu
    · rw [List.mem_singleton.mp hu]
      obtain ⟨w, hw, hwpath⟩ := hold
      exact ⟨path, hpath, w, hw, hwpath, hlast w (h.firsts_in_order.subset hw)⟩
  of_broken := h.of_broken

theorem snoc_broken (h : Accounted base source met firsts repeated broken) (hlast : ∀ w ∈ met, w.Before v)
    (hpath : v.path? base source = none) : Accounted base source (met ++ [v]) firsts repeated (broken ++ [v]) where
  each_once := by
    have hperm := h.each_once.append_right [v]
    rwa [List.append_assoc, List.append_assoc] at hperm
  firsts_in_order := h.firsts_in_order.trans (List.sublist_append_left met [v])
  repeated_in_order := h.repeated_in_order.trans (List.sublist_append_left met [v])
  broken_in_order := h.broken_in_order.append_right [v]
  of_firsts := h.of_firsts_snoc hlast
  of_repeated := h.of_repeated
  of_broken := by
    intro u hu
    rcases List.mem_append.mp hu with hu | hu
    · exact h.of_broken u hu
    · rw [List.mem_singleton.mp hu]
      exact hpath

end Accounted

/-- The symbol of a function item, given its place among the symbols of the file. -/
def Visit.HasSymbol (file : String) (source : Source) (v : Visit) (place : Nat) (s : Symbol) : Prop :=
  ∃ name, enterable? source v.node = some name ∧
    s = { (v.declaration (ModulePath.ofFile file)).toSymbol file source name with order := place }

theorem Visit.fullPath_toSymbol (file : String) (source : Source) (base : List String) (v : Visit) (name : String) :
    ((v.declaration base).toSymbol file source name).fullPath =
      ModulePath.join (base ++ v.frames.map (·.name) ++ [name]) := by
  simp only [Declaration.toSymbol, Declaration.fullPath, Visit.declaration, Scope.fullPath, Scope.segments]

theorem Visit.path?_of_enterable? {source : Source} {v : Visit} {name : String}
    (hname : enterable? source v.node = some name) (base : List String) (file : String) :
    v.path? base source = some ((v.declaration base).toSymbol file source name).fullPath := by
  rw [Visit.path?, hname, Option.map_some, Visit.fullPath_toSymbol]

theorem Visit.HasSymbol.path?_eq {file : String} {source : Source} {v : Visit} {place : Nat} {s : Symbol}
    (h : v.HasSymbol file source place s) : v.path? (ModulePath.ofFile file) source = some s.fullPath := by
  obtain ⟨name, hname, rfl⟩ := h
  rw [Visit.path?_of_enterable? hname _ file]

/-- The remark on a broken function item. -/
def Visit.skipped (file : String) (source : Source) (v : Visit) : Diagnostic :=
  .skipped file source v.node (source.fieldText? v.node "name")

/-- What was found when the function items that are met are settled: a symbol for each first one, and a remark on each
broken one. -/
structure Settled (file : String) (source : Source) (met firsts repeated broken : List Visit)
    (found : FileSymbols) : Prop where
  accounted : Accounted (ModulePath.ofFile file) source met firsts repeated broken
  symbols : List.Forall₂ (fun entry s => entry.1.HasSymbol file source entry.2 s) firsts.zipIdx found.symbols
  diagnostics : found.diagnostics = broken.map (·.skipped file source)

namespace Settled

variable {file : String} {source : Source} {met firsts repeated broken : List Visit} {found : FileSymbols}

theorem length_eq (h : Settled file source met firsts repeated broken found) :
    found.symbols.length = firsts.length := by
  rw [← h.symbols.length_eq, List.length_zipIdx]

/-- The paths that were found are those of the first function items. -/
theorem any_fullPath_iff (h : Settled file source met firsts repeated broken found) (path : String) :
    found.symbols.any (·.fullPath == path) = true ↔
      ∃ w ∈ firsts, w.path? (ModulePath.ofFile file) source = some path := by
  have hpairs : List.Forall₂ (· = ·) (firsts.zipIdx.map fun entry => entry.1.path? (ModulePath.ofFile file) source)
      (found.symbols.map (some ·.fullPath)) := by
    rw [List.forall₂_map_left_iff, List.forall₂_map_right_iff]
    exact h.symbols.imp fun _ _ hsymbol => hsymbol.path?_eq
  rw [List.forall₂_eq_eq_eq] at hpairs
  have hpaths : firsts.map (·.path? (ModulePath.ofFile file) source) = found.symbols.map (some ·.fullPath) := by
    rw [← hpairs, ← List.zipIdx_map_fst 0 firsts, List.map_map, List.zipIdx_map_fst]
    rfl
  have hmem : some path ∈ found.symbols.map (some ·.fullPath) ↔
      some path ∈ firsts.map (·.path? (ModulePath.ofFile file) source) := by
    rw [hpaths]
  simpa [List.mem_map] using hmem

/-- What the outcome of one more function item adds. -/
theorem snoc (h : Settled file source met firsts repeated broken found) {v : Visit} (hlast : ∀ w ∈ met, w.Before v) :
    ∃ firsts repeated broken, Settled file source (met ++ [v]) firsts repeated broken
      (found.add ((v.declaration (ModulePath.ofFile file)).outcome file source)) := by
  rcases Option.eq_none_or_eq_some (enterable? source v.node) with hname | ⟨name, hname⟩
  -- It is broken.
  · have hpath : v.path? (ModulePath.ofFile file) source = none := by
      rw [Visit.path?, hname]
      rfl
    have houtcome : (v.declaration (ModulePath.ofFile file)).outcome file source = .broken (v.skipped file source) := by
      rw [Declaration.outcome, Visit.declaration, hname]
      rfl
    rw [houtcome]
    refine ⟨firsts, repeated, broken ++ [v], h.accounted.snoc_broken hlast hpath, h.symbols, ?_⟩
    rw [List.map_append, ← h.diagnostics]
    rfl
  -- It has a path, which was found before or was not.
  · have hpath := Visit.path?_of_enterable? hname (ModulePath.ofFile file) file
    have houtcome : (v.declaration (ModulePath.ofFile file)).outcome file source =
        .sound ((v.declaration (ModulePath.ofFile file)).toSymbol file source name) := by
      rw [Declaration.outcome, Visit.declaration, hname]
    rw [houtcome, FileSymbols.add]
    split
    · rename_i hold
      exact ⟨firsts, repeated ++ [v], broken,
        h.accounted.snoc_repeated hlast hpath ((h.any_fullPath_iff _).mp hold), h.symbols, h.diagnostics⟩
    · rename_i hnew
      refine ⟨firsts ++ [v], repeated, broken, h.accounted.snoc_first hlast hpath fun w hw hwpath => ?_, ?_,
        h.diagnostics⟩
      · exact hnew ((h.any_fullPath_iff _).mpr ⟨w, hw, hwpath⟩)
      · rw [List.zipIdx_append, h.length_eq]
        exact List.rel_append h.symbols (.cons ⟨name, hname, by simp⟩ .nil)

/-- What all function items add, if they are met in the order of the text. -/
theorem run (file : String) (source : Source) {met : List Visit} (horder : met.Pairwise Visit.Before) :
    ∃ firsts repeated broken, Settled file source met firsts repeated broken
      ((met.map fun v => (v.declaration (ModulePath.ofFile file)).outcome file source).foldl FileSymbols.add {}) := by
  induction met using List.reverseRecOn with
  | nil => exact ⟨[], [], [], Accounted.nil _ _, .nil, rfl⟩
  | append_singleton met v ih =>
    rw [List.pairwise_append] at horder
    obtain ⟨hmet, -, hlast⟩ := horder
    obtain ⟨firsts, repeated, broken, h⟩ := ih hmet
    rw [List.map_append, List.foldl_append]
    exact h.snoc fun w hw => hlast w hw v (List.mem_singleton.mpr rfl)

end Settled

/-! ### The symbols of a file -/

section

variable {closed : List Kind} {source : Source}

theorem Passes.owner_isSome_iff {item v : Visit} (h : Passes closed source item v) :
    v.owner.isSome = true ↔ item.node.kind ∈ [Kind.implItem, .traitItem] := by
  cases h with
  | function kind sound bodyAt => simp [Visit.toPart, kind]
  | module kind sound bodyAt part named => simp [Visit.toPart, kind]
  | member kind bodyAt part named => simpa [Visit.toPart] using kind
  | through plain looked part named =>
    have hother : item.node.kind ∉ [Kind.implItem, .traitItem] :=
      fun kind => plain (mem_itemKinds.mpr (Or.inr (Or.inr kind)))
    simpa [Visit.toPart] using hother

/-- A visit has an owner if it is one step below an `impl` or `trait` item, which is directly in its body. -/
theorem Reached.owner_isSome_iff {root : Node} {v : Visit} (h : Reached closed source root v) :
    v.owner.isSome = true ↔
      ∃ item, Reached closed source root item ∧ item.node.kind ∈ [Kind.implItem, .traitItem] ∧
        Passes closed source item v := by
  constructor
  · intro howner
    obtain ⟨i, top, htop, hnamed, hsteps⟩ := h
    rcases ReflTransGen.cases_tail hsteps with rfl | ⟨item, hitem, hstep⟩
    · exact absurd howner (by simp [Visit.toPart])
    · exact ⟨item, ⟨i, top, htop, hnamed, hitem⟩, hstep.owner_isSome_iff.mp howner, hstep⟩
  · rintro ⟨item, -, kind, hstep⟩
    exact hstep.owner_isSome_iff.mpr kind

end

/-- What the symbol of a function item says about it, given its place among the symbols. -/
structure Describes (file : String) (source : Source) (root : Node) (v : Visit) (place : Nat) (s : Symbol) :
    Prop where
  sound : v.node.hasError = false
  name_eq : source.fieldText? v.node "name" = some s.name
  named : s.name ≠ ""
  fullPath_eq : s.fullPath = ModulePath.join (ModulePath.ofFile file ++ v.frames.map (·.name) ++ [s.name])
  method_iff : s.kind = .method ↔
    ∃ item, Reached declarationStops source root item ∧ item.node.kind ∈ [Kind.implItem, .traitItem] ∧
      Passes declarationStops source item v
  order_eq : s.order = place
  data_eq : s = { (v.declaration (ModulePath.ofFile file)).toSymbol file source s.name with order := place }

theorem enterable?_eq_some_iff {source : Source} {node : Node} {name : String} :
    enterable? source node = some name ↔
      node.hasError = false ∧ source.fieldText? node "name" = some name ∧ name ≠ "" := by
  rw [enterable?]
  split
  · simp_all
  · simp_all [Option.filter_eq_some_iff]

theorem Visit.HasSymbol.describes {file : String} {source : Source} {root : Node} {v : Visit} {place : Nat}
    {s : Symbol} (h : v.HasSymbol file source place s) (hreached : Reached declarationStops source root v) :
    Describes file source root v place s := by
  obtain ⟨name, hname, rfl⟩ := h
  obtain ⟨hsound, hname, hnamed⟩ := enterable?_eq_some_iff.mp hname
  have hpath := v.fullPath_toSymbol file source (ModulePath.ofFile file) name
  refine ⟨hsound, hname, hnamed, hpath, ?_, rfl, rfl⟩
  rw [← hreached.owner_isSome_iff]
  dsimp only [Declaration.toSymbol, Visit.declaration]
  cases v.owner with
  | none => simp
  | some owner => simp

/-- The answers of a tracker along the walk are the full paths of the function items. -/
theorem flatMap_answers (base : List String) (source : Source) (root : Node) :
    (walk declarationStops source root).flatMap (·.answers base source) =
      ((functionItems source root).filterMap (·.path? base source)).map .text := by
  rw [functionItems, List.map_filterMap, List.filterMap_eq_flatMap_toList, ← flatMap_ite_nil]
  rfl

/-- The functions of a file, before a syntax error outside of them is looked at. -/
def foundIn (file : String) (source : Source) (root : Node) : FileSymbols :=
  ((functionItems source root).map fun v =>
    (v.declaration (ModulePath.ofFile file)).outcome file source).foldl FileSymbols.add {}

theorem extract_eq (file : String) (source : Source) (root : Node) :
    FileSymbols.extract file source root = (foundIn file source root).close file source root := by
  rw [FileSymbols.extract, foundIn, declarations_eq, List.map_map]
  rfl

theorem diagnostics_close (file : String) (source : Source) (root : Node) (found : FileSymbols) :
    (found.close file source root).diagnostics =
      if root.hasError ∧ found.diagnostics = [] then [.outsideFunctions file source root] else found.diagnostics := by
  rw [FileSymbols.close]
  split <;> split <;> simp_all

namespace FileSymbols

/-- **The symbols of a file are the first declarations of their paths.**  The function items that a walk from the root
meets come in the order of the text.  Each of them is exactly one of three: the first with its full path, a later one
with the same path, or a broken one.  The symbols describe the first ones, in their order; the broken ones are
reported, and the later ones leave no trace.  A tracker that is led along the same walk refuses nothing, and tells the
full paths of all that are not broken. -/
theorem symbols_exact (file : String) (source : Source) (root : Node) :
    ∃ met firsts repeated broken : List Visit,
      (∀ v, v ∈ met ↔ Reached declarationStops source root v ∧ v.node.kind = .functionItem) ∧
      met.Pairwise Visit.Before ∧
      Accounted (ModulePath.ofFile file) source met firsts repeated broken ∧
      List.Forall₂ (fun entry s => Describes file source root entry.1 entry.2 s) firsts.zipIdx
        (extract file source root).symbols ∧
      (extract file source root).diagnostics =
        (if root.hasError ∧ broken = [] then [.outsideFunctions file source root]
        else broken.map (·.skipped file source)) ∧
      ∃ entry, Scope.runScript (.ofFile file) (walkScript declarationStops source root) = [entry] ∧
        entry.answers? = some ((met.filterMap (·.path? (ModulePath.ofFile file) source)).map .text) := by
  obtain ⟨firsts, repeated, broken, hsettled⟩ := Settled.run file source (pairwise_functionItems source root)
  refine ⟨functionItems source root, firsts, repeated, broken, fun _ => mem_functionItems,
    pairwise_functionItems source root, hsettled.accounted, ?_, ?_, ?_⟩
  · rw [extract_eq, symbols_close]
    have hreached : ∀ entry ∈ firsts.zipIdx, Reached declarationStops source root entry.1 := by
      intro entry hentry
      have hmet := hsettled.accounted.firsts_in_order.subset (List.fst_mem_of_mem_zipIdx hentry)
      exact (mem_functionItems.mp hmet).1
    exact (List.forall₂_and_left _ _ |>.mpr ⟨hreached, hsettled.symbols⟩).imp fun _ _ h => h.2.describes h.1
  · rw [extract_eq, diagnostics_close, foundIn, hsettled.diagnostics]
    simp only [List.map_eq_nil_iff]
  · rw [← flatMap_answers]
    exact runScript_walk declarationStops file source root

/-- A module without a name, whose body holds the function of the text `fn f() {}`. -/
def unnamedModule : Node :=
  .mk .modItem 0 9 none true false [
    .mk (.other "declaration_list") 0 9 (some "body") true false [
      .mk .functionItem 0 9 none true false [
        .mk .identifier 3 4 (some "name") true false [],
        .mk (.other "block") 7 9 (some "body") true false []]]]

/-- Not every body of a module is entered: a function without an error and with a name, in the body of a module
without a name, is neither listed nor reported. -/
theorem unnamed_module_not_entered :
    ∃ body function : Node, unnamedModule.kind = .modItem ∧ unnamedModule.named = true ∧
      unnamedModule.child? "body" = some body ∧ body.namedChildren = [function] ∧ function.kind = .functionItem ∧
      enterable? (.ofText "fn f() \x7b\x7d") function = some "f" ∧
      (extract "src/lib.rs" (.ofText "fn f() \x7b\x7d")
        (.mk (.other "source_file") 0 9 none true false [unnamedModule])).symbols = [] ∧
      (extract "src/lib.rs" (.ofText "fn f() \x7b\x7d")
        (.mk (.other "source_file") 0 9 none true false [unnamedModule])).diagnostics = [] := by
  refine ⟨_, _, rfl, rfl, rfl, rfl, rfl, ?_, ?_, ?_⟩
  · decide +kernel
  · decide +kernel
  · decide +kernel

end FileSymbols

end Deadwood
