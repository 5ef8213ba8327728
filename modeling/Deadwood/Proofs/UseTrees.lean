/-
Use trees and the bindings that they stand for.

A `UseTree` is what a use declaration says: paths, renamed paths, `self`, wildcards and groups of
them behind a path.  `UseTree.flatten` gives its bindings.  The main statements are

* **`bindings_of_writes`** — what is collected from a node that writes a tree is what the tree
  `asRecorded` stands for, in which a renamed `self` is a path with the segment `self`, and a
  comment in a group is a path by itself;
* **`flatten_asRecorded_iff`** — that is what the tree itself stands for exactly if the tree is
  `regular`: it has no comment and renames no `self` behind a path;
* **`get?_foldl_record`** — of several bindings of a name the last with a target counts;
* **`use_tree_flattened`** — hence the table of a module after a use declaration.
-/
import Deadwood.Proofs.CallExpressions

namespace Deadwood

open Syntax

/-! ### Trees and their bindings -/

/-- What a use declaration says, or a part of it. -/
inductive UseTree where
  | path (segments : List String)
  | rename (segments : List String) (name : String)
  | itself
  | itselfAs (name : String)
  | wildcard
  | comment (text : String)
  | group (front : List String) (members : List UseTree)

namespace UseTree

/-- A path is bound under its last segment. -/
def bindLast (front segments : List String) : List Binding :=
  segments.getLast?.toList.map (⟨·, front ++ segments⟩)

/-- A path is bound under a name of its own, if that is not `_`. -/
def bindAs (name : String) (segments : List String) : List Binding :=
  if name = "_" then [] else [⟨name, segments⟩]

/-- What `self` stands for: the path in front of its group, if there is one. -/
def ownPath (front : List String) : List String :=
  if front = [] then ["self"] else front

mutual

/-- The bindings of a tree, under the segments in front of it. -/
def flatten (front : List String) : UseTree → List Binding
  | path segments => bindLast front segments
  | rename segments name => bindAs name (front ++ segments)
  | itself => bindLast [] (ownPath front)
  | itselfAs name => bindAs name (ownPath front)
  | wildcard => []
  | comment _ => []
  | group inner members => flattenAll (front ++ inner) members

def flattenAll (front : List String) : List UseTree → List Binding
  | [] => []
  | tree :: rest => flatten front tree ++ flattenAll front rest

end

mutual

/-- A tree as it is recorded: a renamed `self` is taken for a path, and so is a comment. -/
def asRecorded : UseTree → UseTree
  | path segments => path segments
  | rename segments name => rename segments name
  | itself => itself
  | itselfAs name => rename ["self"] name
  | wildcard => wildcard
  | comment text => path [Text.dropBlanks text]
  | group front members => group front (asRecordedAll members)

def asRecordedAll : List UseTree → List UseTree
  | [] => []
  | tree :: rest => asRecorded tree :: asRecordedAll rest

end

mutual

/-- Whether a tree has no comment and binds no renamed `self` behind a path. -/
def regular (front : List String) : UseTree → Bool
  | itselfAs name => front.isEmpty || name == "_"
  | comment _ => false
  | group inner members => regularAll (front ++ inner) members
  | path _ | rename _ _ | itself | wildcard => true

def regularAll (front : List String) : List UseTree → Bool
  | [] => true
  | tree :: rest => regular front tree && regularAll front rest

end

variable {front : List String} {members : List UseTree}

theorem flattenAll_eq : flattenAll front members = members.flatMap (flatten front) := by
  induction members with
  | nil => rfl
  | cons tree rest ih => rw [flattenAll, ih, List.flatMap_cons]

theorem asRecordedAll_eq : asRecordedAll members = members.map asRecorded := by
  induction members with
  | nil => rfl
  | cons tree rest ih => rw [asRecordedAll, ih, List.map_cons]

theorem regularAll_eq : regularAll front members = members.all (regular front) := by
  induction members with
  | nil => rfl
  | cons tree rest ih => rw [regularAll, ih, List.all_cons]

/-- Induction on a tree, with a hypothesis for each member of a group. -/
@[elab_as_elim]
theorem induct {motive : UseTree → Prop} (path : ∀ segments, motive (path segments))
    (rename : ∀ segments name, motive (rename segments name)) (itself : motive itself)
    (itselfAs : ∀ name, motive (itselfAs name)) (wildcard : motive wildcard) (comment : ∀ text, motive (comment text))
    (group : ∀ front members, (∀ member ∈ members, motive member) → motive (group front members)) (tree : UseTree) :
    motive tree := by
  refine @UseTree.rec motive (fun members => ∀ member ∈ members, motive member) path rename itself itselfAs wildcard
    comment group (fun _ h => absurd h List.not_mem_nil) (fun head tail hhead htail member hmember => ?_) tree
  rcases List.mem_cons.mp hmember with rfl | hin
  · exact hhead
  · exact htail member hin

/-! ### Where the two readings agree -/

theorem length_flatten_le (tree : UseTree) (front : List String) :
    (tree.flatten front).length ≤ (tree.asRecorded.flatten front).length := by
  induction tree using induct generalizing front with
  | path | rename | itself | wildcard => exact le_rfl
  | itselfAs name =>
    rw [asRecorded, flatten, flatten, bindAs, bindAs]
    split <;> exact le_rfl
  | comment text => exact Nat.zero_le _
  | group inner members ih =>
    rw [asRecorded, flatten, flatten, asRecordedAll_eq, flattenAll_eq, flattenAll_eq, List.flatMap_map]
    induction members with
    | nil => exact le_rfl
    | cons tree rest ihrest =>
      obtain ⟨htree, hrest⟩ := List.forall_mem_cons.mp ih
      rw [List.flatMap_cons, List.flatMap_cons, List.length_append, List.length_append]
      exact Nat.add_le_add (htree _) (ihrest hrest)

theorem bindAs_self_iff (name : String) (front : List String) :
    bindAs name (front ++ ["self"]) = bindAs name (ownPath front) ↔ (front.isEmpty || name == "_") = true := by
  rw [bindAs, bindAs, ownPath, Bool.or_eq_true, List.isEmpty_iff, beq_iff_eq]
  by_cases hname : name = "_"
  · simp [hname]
  · by_cases hfront : front = [] <;> simp [hname, hfront]

/-- What is recorded is what a tree stands for exactly if the tree is regular. -/
theorem flatten_asRecorded_iff (tree : UseTree) (front : List String) :
    tree.asRecorded.flatten front = tree.flatten front ↔ tree.regular front = true := by
  induction tree using induct generalizing front with
  | path | rename | itself | wildcard => exact iff_of_true rfl rfl
  | itselfAs name => exact bindAs_self_iff name front
  | comment text => exact iff_of_false (List.cons_ne_nil _ _) Bool.false_ne_true
  | group inner members ih =>
    rw [asRecorded, flatten, flatten, regular, asRecordedAll_eq, flattenAll_eq, flattenAll_eq, regularAll_eq,
      List.flatMap_map]
    induction members with
    | nil => exact iff_of_true rfl rfl
    | cons tree rest ihrest =>
      obtain ⟨htree, hrest⟩ := List.forall_mem_cons.mp ih
      rw [List.flatMap_cons, List.flatMap_cons, List.all_cons, Bool.and_eq_true, ← htree, ← ihrest hrest]
      -- Nothing is lost in a member, so the bindings of the members can only agree one by one.
      refine ⟨fun heq => List.append_inj heq ?_, fun ⟨hone, hall⟩ => by rw [hone, hall]⟩
      have hlength := congrArg List.length heq
      rw [List.length_append, List.length_append] at hlength
      have hfirst := length_flatten_le tree (front ++ inner)
      have hothers := length_flatten_le (group inner rest) front
      rw [asRecorded, flatten, flatten, asRecordedAll_eq, flattenAll_eq, flattenAll_eq, List.flatMap_map] at hothers
      omega

end UseTree

/-! ### What a node writes -/

/-- A path of names, or none at all. -/
inductive PlainPath (source : Source) : Option Node → List String → Prop where
  | nowhere : PlainPath source none []
  | atom {node : Node} (kind : isPathAtom node.kind = true) : PlainPath source (some node) [source.text node]
  | inside {node last : Node} {front : List String} (kind : node.kind = .scopedIdentifier)
      (path : PlainPath source (node.child? "path") front) (name : node.child? "name" = some last)
      (atom : isPathAtom last.kind = true) : PlainPath source (some node) (front ++ [source.text last])

/-- A clause gives a name to a path. -/
structure Renames (source : Source) (node renamed : Node) (name : String) : Prop where
  kind : node.kind = .useAsClause
  path : node.child? "path" = some renamed
  label : source.fieldText? node "alias" = some name
  nonempty : name ≠ ""

/-- The word `self`. -/
structure IsSelf (source : Source) (node : Node) : Prop where
  kind : node.kind = .selfKeyword
  text : source.text node = "self"

/-- The tree that a node writes. -/
inductive Writes (source : Source) : Node → UseTree → Prop where
  | path {node : Node} {segments : List String} (plain : PlainPath source (some node) segments)
      (other : node.kind ≠ .selfKeyword) : Writes source node (.path segments)
  | rename {node renamed : Node} {segments : List String} {name : String} (renames : Renames source node renamed name)
      (plain : PlainPath source (some renamed) segments) (other : renamed.kind ≠ .selfKeyword) :
      Writes source node (.rename segments name)
  | itself {node : Node} (self : IsSelf source node) : Writes source node .itself
  | itselfAs {node renamed : Node} {name : String} (renames : Renames source node renamed name)
      (self : IsSelf source renamed) : Writes source node (.itselfAs name)
  | wildcard {node : Node} (kind : node.kind = .useWildcard) : Writes source node .wildcard
  | comment {node : Node} (kind : node.kind = .lineComment ∨ node.kind = .blockComment) :
      Writes source node (.comment (source.text node))
  | group {node : Node} {trees : List UseTree} (kind : node.kind = .useList)
      (members : List.Forall₂ (Writes source) node.namedChildren trees) : Writes source node (.group [] trees)
  | behind {node inner : Node} {front : List String} {trees : List UseTree} (kind : node.kind = .scopedUseList)
      (path : PlainPath source (node.child? "path") front) (list : node.child? "list" = some inner)
      (group : inner.kind = .useList) (members : List.Forall₂ (Writes source) inner.namedChildren trees) :
      Writes source node (.group front trees)

variable {source : Source} {node : Node} {front segments : List String}

/-- A function that passes over nodes until one fills a field. -/
theorem eq_of_first {β : Type} {f : Node → List β} {g : List Node → List β} {field : String} (hnil : g [] = [])
    (hcons : ∀ node rest, g (node :: rest) = if node.field == some field then f node else g rest) (nodes : List Node) :
    g nodes = ((nodes.find? fun child => child.field == some field).map f).getD [] := by
  induction nodes with
  | nil => exact hnil
  | cons node rest ih =>
    rw [hcons, List.find?_cons]
    by_cases h : (node.field == some field) = true
    · rw [if_pos h, h]
      rfl
    · rw [if_neg h, ih, (Bool.not_eq_true _).mp h]

theorem fieldSegments_eq (source : Source) (field : String) (nodes : List Node) :
    fieldSegments source field nodes =
      ((nodes.find? fun child => child.field == some field).map (pathSegments source)).getD [] :=
  eq_of_first (by rw [fieldSegments]) (fun node rest => by rw [fieldSegments]) nodes

theorem fieldBindings_eq (source : Source) (front : List String) (field : String) (nodes : List Node) :
    fieldBindings source front field nodes =
      ((nodes.find? fun child => child.field == some field).map (bindings source front)).getD [] :=
  eq_of_first (by rw [fieldBindings]) (fun node rest => by rw [fieldBindings]) nodes

theorem groupBindings_eq (source : Source) (front : List String) (nodes : List Node) :
    groupBindings source front nodes = (nodes.filter (·.named)).flatMap (bindings source front) := by
  induction nodes with
  | nil => rfl
  | cons node rest ih =>
    rw [groupBindings, ih, List.filter_cons]
    split
    · rw [List.flatMap_cons]
    · rw [List.nil_append]

theorem pathSegments_atom (h : isPathAtom node.kind = true) : pathSegments source node = [source.text node] := by
  obtain ⟨_, _, _, _, _, _, _⟩ := node
  rw [pathSegments.eq_def]
  exact if_pos h

theorem IsSelf.pathSegments_eq (h : IsSelf source node) : pathSegments source node = ["self"] := by
  have hatom : isPathAtom node.kind = true := by
    rw [h.kind]
    rfl
  rw [pathSegments_atom hatom, h.text]

theorem pathSegments_inside (h : node.kind = .scopedIdentifier) :
    pathSegments source node =
      ((node.child? "path").map (pathSegments source)).getD [] ++
        ((node.child? "name").map (pathSegments source)).getD [] := by
  obtain ⟨_, _, _, _, _, _, children⟩ := node
  obtain rfl := h
  rw [Node.child?, Node.child?, ← fieldSegments_eq, ← fieldSegments_eq, pathSegments.eq_def]
  rfl

theorem pathSegments_comment (h : node.kind = .lineComment ∨ node.kind = .blockComment) :
    pathSegments source node = [Text.dropBlanks (source.text node)] := by
  obtain ⟨_, _, _, _, _, _, _⟩ := node
  rcases h with h | h <;>
    · obtain rfl := h
      rw [pathSegments.eq_def]
      rfl

namespace PlainPath

theorem segments_eq {node? : Option Node} (h : PlainPath source node? segments) :
    (node?.map (pathSegments source)).getD [] = segments := by
  induction h with
  | nowhere => rfl
  | atom kind => exact pathSegments_atom kind
  | inside kind path name atom ih =>
    rw [Option.map_some, Option.getD_some, pathSegments_inside kind, ih, name, Option.map_some, Option.getD_some,
      pathSegments_atom atom]

theorem of_text (kind : isPathAtom node.kind = true) {name : String} (text : source.text node = name) :
    PlainPath source (some node) [name] :=
  text ▸ atom kind

theorem pathSegments_eq (h : PlainPath source (some node) segments) : pathSegments source node = segments :=
  h.segments_eq

theorem ne_nil (h : PlainPath source (some node) segments) : segments ≠ [] := by
  cases h with
  | atom => exact List.cons_ne_nil _ _
  | inside => simp

end PlainPath

/-! ### What is collected -/

/-- The kinds of node that have a rule of their own. -/
def useKinds : List Kind := [.useAsClause, .scopedUseList, .useList, .useWildcard]

theorem PlainPath.kind_notMem (h : PlainPath source (some node) segments) : node.kind ∉ useKinds := by
  cases h with
  | atom kind =>
    have hnone : ∀ kind ∈ useKinds, isPathAtom kind ≠ true := by decide
    exact fun hmem => hnone _ hmem kind
  | inside kind =>
    rw [kind]
    decide

theorem bindings_useAsClause {renamed : Node} {name : String} (h : Renames source node renamed name) :
    bindings source front node = UseTree.bindAs name (front ++ pathSegments source renamed) := by
  obtain ⟨hkind, hpath, hlabel, hne⟩ := h
  obtain ⟨_, _, _, _, _, _, children⟩ := node
  obtain rfl := hkind
  have hsegments : fieldSegments source "path" children = pathSegments source renamed := by
    rw [fieldSegments_eq]
    exact congrArg (fun found => (Option.map (pathSegments source) found).getD []) hpath
  rw [bindings.eq_def]
  dsimp only
  rw [hlabel, hsegments, UseTree.bindAs, Option.filter_some]
  by_cases hname : name = "_"
  · simp [hname]
  · simp [hname, hne]

theorem bindings_scopedUseList {inner : Node} (hkind : node.kind = .scopedUseList)
    (hlist : node.child? "list" = some inner) :
    bindings source front node =
      bindings source (front ++ ((node.child? "path").map (pathSegments source)).getD []) inner := by
  obtain ⟨_, _, _, _, _, _, children⟩ := node
  obtain rfl := hkind
  rw [bindings.eq_def, Node.child?, ← fieldSegments_eq]
  dsimp only
  rw [fieldBindings_eq]
  exact congrArg (fun found => (Option.map (bindings source _) found).getD []) hlist

theorem bindings_useList (hkind : node.kind = .useList) :
    bindings source front node = node.namedChildren.flatMap (bindings source front) := by
  obtain ⟨_, _, _, _, _, _, children⟩ := node
  obtain rfl := hkind
  rw [bindings.eq_def]
  exact groupBindings_eq source front children

theorem bindings_useWildcard (hkind : node.kind = .useWildcard) : bindings source front node = [] := by
  obtain ⟨_, _, _, _, _, _, children⟩ := node
  obtain rfl := hkind
  rw [bindings.eq_def]

theorem bindings_leaf (hkind : node.kind ∉ useKinds) :
    bindings source front node =
      UseTree.bindLast [] (if node.kind == .selfKeyword && !front.isEmpty then front
        else front ++ pathSegments source node) := by
  obtain ⟨kind, _, _, _, _, _, children⟩ := node
  rw [Node.kind] at hkind ⊢
  rw [bindings.eq_def]
  dsimp only
  split
  · exact absurd (by decide) hkind
  · exact absurd (by decide) hkind
  · exact absurd (by decide) hkind
  · exact absurd (by decide) hkind
  · rw [UseTree.bindLast]
    split
    · rename_i hlast
      rw [hlast]
      rfl
    · rename_i hlast
      rw [hlast]
      rfl

theorem bindings_path (hkind : node.kind ∉ useKinds) (hself : node.kind ≠ .selfKeyword)
    (hsegments : pathSegments source node ≠ []) :
    bindings source front node = UseTree.bindLast front (pathSegments source node) := by
  have hnot : ¬ (node.kind == .selfKeyword && !front.isEmpty) = true := by simp [hself]
  rw [bindings_leaf hkind, if_neg hnot, UseTree.bindLast, UseTree.bindLast, List.nil_append,
    List.getLast?_append_of_ne_nil _ hsegments]

theorem bindings_self (h : IsSelf source node) :
    bindings source front node = UseTree.bindLast [] (UseTree.ownPath front) := by
  have hkind : node.kind ∉ useKinds := by
    rw [h.kind]
    decide
  rw [bindings_leaf hkind, h.pathSegments_eq, h.kind, UseTree.ownPath]
  cases front with
  | nil => rfl
  | cons first rest => rfl

/-- A group is read member by member. -/
theorem flatMap_bindings {nodes : List Node} {trees : List UseTree} (hmembers : List.Forall₂ (Writes source) nodes trees)
    (hmember : ∀ tree ∈ trees, ∀ node, Writes source node tree →
      bindings source front node = tree.asRecorded.flatten front) :
    nodes.flatMap (bindings source front) = (trees.map UseTree.asRecorded).flatMap (UseTree.flatten front) := by
  induction hmembers with
  | nil => rfl
  | cons hfirst _ ih =>
    obtain ⟨hhead, htail⟩ := List.forall_mem_cons.mp hmember
    rw [List.flatMap_cons, List.map_cons, List.flatMap_cons, hhead _ hfirst, ih htail]

/-- **What is collected from a node.**  It is what the tree that the node writes stands for, as it is recorded. -/
theorem bindings_of_writes {tree : UseTree} (h : Writes source node tree) (front : List String) :
    bindings source front node = tree.asRecorded.flatten front := by
  induction tree using UseTree.induct generalizing node front with
  | path segments =>
    cases h with
    | path plain other =>
      rw [bindings_path plain.kind_notMem other (plain.pathSegments_eq ▸ plain.ne_nil), plain.pathSegments_eq]
      rfl
  | rename segments name =>
    cases h with
    | rename renames plain other =>
      rw [bindings_useAsClause renames, plain.pathSegments_eq]
      rfl
  | itself =>
    cases h with
    | itself self => exact bindings_self self
  | itselfAs name =>
    cases h with
    | itselfAs renames self =>
      -- A renamed `self` is no leaf of its own: it is joined to the path in front like any other path.
      rw [bindings_useAsClause renames, self.pathSegments_eq]
      rfl
  | wildcard =>
    cases h with
    | wildcard kind => exact bindings_useWildcard kind
  | comment text =>
    cases h with
    | comment kind =>
      have hkinds : node.kind ∉ useKinds ∧ node.kind ≠ .selfKeyword := by
        rcases kind with hkind | hkind <;> rw [hkind] <;> decide
      have hsegments : pathSegments source node = [Text.dropBlanks (source.text node)] := pathSegments_comment kind
      rw [bindings_path hkinds.1 hkinds.2 (hsegments ▸ List.cons_ne_nil _ _), hsegments]
      rfl
  | group inner members ih =>
    rw [UseTree.asRecorded, UseTree.flatten, UseTree.asRecordedAll_eq, UseTree.flattenAll_eq]
    cases h with
    | group kind hmembers =>
      rw [bindings_useList kind, flatMap_bindings hmembers fun tree htree _ h => ih tree htree h front, List.append_nil]
    | behind kind path list group hmembers =>
      rw [bindings_scopedUseList kind list, path.segments_eq, bindings_useList group,
        flatMap_bindings hmembers fun tree htree _ h => ih tree htree h _]

/-! ### What is entered -/

/-- What a binding stands for: its crate-relative path where there is one, its path as written otherwise. -/
def Binding.target (scope : Scope) (binding : Binding) : List String :=
  (scope.normalize? binding.segments).getD binding.segments

/-- What a name stands for after several bindings: the last one of the name that has a target counts. -/
def Scope.target? (scope : Scope) (bindings : List Binding) (name : String) : Option String :=
  (bindings.filter fun binding => binding.name = name ∧ binding.target scope ≠ []).getLast?.map fun binding =>
    ModulePath.join (binding.target scope)

theorem Binding.get?_record (scope : Scope) (table : OrderedMap String String) (binding : Binding) (name : String) :
    (binding.record scope table).get? name =
      if binding.name = name ∧ binding.target scope ≠ [] then some (ModulePath.join (binding.target scope))
      else table.get? name := by
  rw [Binding.record]
  change (if (binding.target scope).isEmpty = true then table
    else table.insert binding.name (ModulePath.join (binding.target scope))).get? name = _
  by_cases hempty : binding.target scope = []
  · rw [if_pos (List.isEmpty_iff.mpr hempty), if_neg fun h => h.2 hempty]
  · rw [if_neg (hempty ∘ List.isEmpty_iff.mp), OrderedMap.get?_insert]
    by_cases hname : binding.name = name
    · rw [if_pos hname.symm, if_pos ⟨hname, hempty⟩]
    · rw [if_neg (Ne.symm hname), if_neg fun h => hname h.1]

/-- Later bindings of a name override earlier ones. -/
theorem get?_foldl_record (scope : Scope) (table : OrderedMap String String) (bindings : List Binding) (name : String) :
    (bindings.foldl (Binding.record scope) table).get? name = (scope.target? bindings name).or (table.get? name) := by
  induction bindings using List.reverseRecOn with
  | nil => rfl
  | append_singleton earlier last ih =>
    rw [List.foldl_append, List.foldl_cons, List.foldl_nil, Binding.get?_record, ih, Scope.target?, Scope.target?,
      List.filter_append, List.filter_singleton]
    by_cases hlast : last.name = name ∧ last.target scope ≠ []
    · rw [if_pos hlast, decide_eq_true hlast, cond_true, List.getLast?_concat]
      rfl
    · rw [if_neg hlast, decide_eq_false hlast, cond_false, List.append_nil]

/-- Bindings are entered in the table of the module of a scope, and in no other table. -/
def Imports.Enters (scope : Scope) (bindings : List Binding) (before after : Imports) : Prop :=
  ∀ module name, (after.ofModule module).get? name =
    if scope.modulePath = module then (scope.target? bindings name).or ((before.ofModule module).get? name)
    else (before.ofModule module).get? name

theorem Imports.enters_declare (imports : Imports) (scope : Scope) {item argument : Node} {tree : UseTree}
    (hargument : item.child? "argument" = some argument) (hwrites : Writes source argument tree) :
    Imports.Enters scope (tree.asRecorded.flatten []) imports (imports.declare source scope item) := by
  intro module name
  have hbindings : fieldBindings source [] "argument" item.children = tree.asRecorded.flatten [] := by
    rw [fieldBindings_eq, ← bindings_of_writes hwrites]
    exact congrArg (fun found => (Option.map (bindings source []) found).getD []) hargument
  rw [ofModule_declare, hbindings]
  by_cases h : scope.modulePath = module
  · rw [if_pos h, if_pos h, get?_foldl_record]
  · rw [if_neg h, if_neg h]

/-- **Import tables are flattened use trees.**  A use declaration enters the bindings of the tree that its argument
writes, as it is recorded.  If the tree has no comment and renames no `self` behind a path, these are the bindings of
the tree itself; in every other case they are not. -/
theorem use_tree_flattened (imports : Imports) (scope : Scope) {item argument : Node} {tree : UseTree}
    (hargument : item.child? "argument" = some argument) (hwrites : Writes source argument tree) :
    Imports.Enters scope (tree.asRecorded.flatten []) imports (imports.declare source scope item) ∧
      (tree.regular [] = true →
        Imports.Enters scope (tree.flatten []) imports (imports.declare source scope item)) ∧
      (tree.regular [] = false → tree.asRecorded.flatten [] ≠ tree.flatten []) := by
  have henters := imports.enters_declare scope hargument hwrites
  refine ⟨henters, fun hregular => ?_, fun hirregular heq => ?_⟩
  · rwa [← (tree.flatten_asRecorded_iff []).mpr hregular]
  · have hregular := (tree.flatten_asRecorded_iff []).mp heq
    exact absurd (hregular.symm.trans hirregular) (by decide)

/-! The declaration `use crate::{a as b, a::{self, *, d}, c as a};` in the root of a crate. -/

def nestedUse : Source := .ofText "use crate::\x7ba as b, a::\x7bself, *, d\x7d, c as a\x7d;"

def nestedUseMembers : List Node := [
  .mk .useAsClause 12 18 none true false [
    .mk .identifier 12 13 (some "path") true false [], .mk .identifier 17 18 (some "alias") true false []],
  .mk .scopedUseList 20 35 none true false [
    .mk .identifier 20 21 (some "path") true false [],
    .mk .useList 23 35 (some "list") true false [
      .mk .selfKeyword 24 28 none true false [], .mk .useWildcard 30 31 none true false [],
      .mk .identifier 33 34 none true false []]],
  .mk .useAsClause 37 43 none true false [
    .mk .identifier 37 38 (some "path") true false [], .mk .identifier 42 43 (some "alias") true false []]]

def nestedUseArgument : Node :=
  .mk .scopedUseList 4 44 (some "argument") true false [
    .mk .crateKeyword 4 9 (some "path") true false [], .mk .useList 11 44 (some "list") true false nestedUseMembers]

def nestedUseItem : Node := .mk .useDeclaration 0 45 none true false [nestedUseArgument]

def nestedUseTree : UseTree :=
  .group ["crate"] [.rename ["a"] "b", .group ["a"] [.itself, .wildcard, .path ["d"]], .rename ["c"] "a"]

theorem writes_nestedUse : Writes nestedUse nestedUseArgument nestedUseTree := by
  have hinner : Writes nestedUse (nestedUseMembers.get ⟨1, by decide⟩)
      (.group ["a"] [.itself, .wildcard, .path ["d"]]) := by
    refine .behind rfl (.of_text rfl (by decide +kernel)) rfl rfl (.cons ?_ (.cons ?_ (.cons ?_ .nil)))
    · exact .itself ⟨rfl, by decide +kernel⟩
    · exact .wildcard rfl
    · exact .path (.of_text rfl (by decide +kernel)) (by decide)
  refine .behind rfl (.of_text rfl (by decide +kernel)) rfl rfl (.cons ?_ (.cons hinner (.cons ?_ .nil)))
  · exact .rename ⟨rfl, rfl, by decide +kernel, by decide⟩ (.of_text rfl (by decide +kernel)) (by decide)
  · exact .rename ⟨rfl, rfl, by decide +kernel, by decide⟩ (.of_text rfl (by decide +kernel)) (by decide)

theorem use_tree_flattened_nested :
    nestedUseItem.child? "argument" = some nestedUseArgument ∧ Writes nestedUse nestedUseArgument nestedUseTree ∧
      nestedUseTree.regular [] = true ∧
      ∀ table, table = (Imports.declare nestedUse {} ⟨[], []⟩ nestedUseItem).ofModule "" →
        table.get? "b" = some "a" ∧ table.get? "d" = some "a::d" ∧ table.get? "a" = some "c" := by
  have hargument : nestedUseItem.child? "argument" = some nestedUseArgument := rfl
  have hregular : nestedUseTree.regular [] = true := by decide
  obtain ⟨-, henters, -⟩ := use_tree_flattened {} ⟨[], []⟩ hargument writes_nestedUse
  refine ⟨hargument, writes_nestedUse, hregular, ?_⟩
  rintro table rfl
  refine ⟨?_, ?_, ?_⟩ <;>
    · rw [henters hregular]
      decide +kernel

/-! The declaration `use crate::net::{self as n};`.  The name should stand for the module `net`, as it does after
`use crate::net as n;`. -/

def renamedSelf : Source := .ofText "use crate::net::\x7bself as n\x7d;"

def renamedSelfArgument : Node :=
  .mk .scopedUseList 4 27 (some "argument") true false [
    .mk .scopedIdentifier 4 14 (some "path") true false [
      .mk .crateKeyword 4 9 (some "path") true false [], .mk .identifier 11 14 (some "name") true false []],
    .mk .useList 16 27 (some "list") true false [
      .mk .useAsClause 17 26 none true false [
        .mk .selfKeyword 17 21 (some "path") true false [], .mk .identifier 25 26 (some "alias") true false []]]]

def renamedSelfItem : Node := .mk .useDeclaration 0 28 none true false [renamedSelfArgument]

theorem renamed_self_misses_module :
    renamedSelfItem.child? "argument" = some renamedSelfArgument ∧
      Writes renamedSelf renamedSelfArgument (.group ["crate", "net"] [.itselfAs "n"]) ∧
      Scope.target? ⟨[], []⟩ (UseTree.flatten [] (.group ["crate", "net"] [.itselfAs "n"])) "n" = some "net" ∧
      ((Imports.declare renamedSelf {} ⟨[], []⟩ renamedSelfItem).ofModule "").get? "n" = some "net::self" := by
  have hpath : PlainPath renamedSelf (renamedSelfArgument.child? "path") (["crate"] ++ ["net"]) := by
    have hname : renamedSelf.text (.mk .identifier 11 14 (some "name") true false []) = "net" := by decide +kernel
    exact hname ▸ .inside rfl (.of_text rfl (by decide +kernel)) rfl rfl
  refine ⟨rfl, .behind rfl hpath rfl rfl (.cons ?_ .nil), by decide +kernel, by decide +kernel⟩
  exact .itselfAs ⟨rfl, rfl, by decide +kernel, by decide⟩ ⟨rfl, by decide +kernel⟩

end Deadwood
