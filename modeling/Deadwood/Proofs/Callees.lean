/-
How the calls of a file are written.

A call is written in a call expression, or among the tokens of a macro as an
identifier in front of a parenthesised group.  A `Callee` is what stands there: a
path, or a method of `self` or of something else.  It depends on the text alone;
imports come in when the call is recorded (`Callee.site`).

* **`mem_callsInTokens_iff`** — the calls in a token tree are those in front of its
  groups, at any depth (`GroupAfter`);
* **`callOf?_iff_site`**, **`callBefore?_iff_site`** — what is found at a place is the
  record of the callee that is written there;
* **`mem_calls_iff`** — hence the calls of a file are the records of the callees that are
  written in it.

A path has a last segment by its type, so every callee has a name and a record.
-/
import Deadwood.Proofs.CallExpressions

namespace Deadwood

open Syntax

/-- What is called: a path, by the segments in front of its last one, or a method. -/
inductive Callee where
  | path (front : List String) (name : String)
  | method (name : String) (onSelf : Bool)
  deriving DecidableEq, Repr

/-- The call that is recorded for a callee at a scope. -/
def Callee.site (file : String) (source : Source) (imports : Imports) (scope : Scope) (node : Node)
    (fromMacro : Bool) : Callee → CallSite
  | .path front name =>
    { callee := name, file, span := source.span node, enclosing := scope.enclosing
      path := (qualify imports scope (front ++ [name])).1
      resolved := (qualify imports scope (front ++ [name])).2, fromMacro }
  | .method name onSelf => methodCall file source scope node name onSelf fromMacro

theorem pathCall?_append (file : String) (source : Source) (imports : Imports) (scope : Scope) (node : Node)
    (front : List String) (name : String) (fromMacro : Bool) :
    pathCall? file source imports scope node (front ++ [name]) fromMacro =
      some (Callee.site file source imports scope node fromMacro (.path front name)) := by
  rw [pathCall?, List.getLast?_concat]
  rfl

/-! ### Call expressions -/

/-- The callee of a call expression. -/
inductive CalleeOf (source : Source) (expression : Node) : Callee → Prop where
  | path {node : Node} {front : List String} {name : String} (called : HasCallee expression node)
      (kind : node.kind ∈ pathKinds) (segments : pathSegments source node = front ++ [name]) :
      CalleeOf source expression (.path front name)
  | method {node field : Node} (called : HasCallee expression node) (kind : node.kind = .fieldExpression)
      (fieldAt : node.child? "field" = some field) (named : field.kind = .fieldIdentifier) :
      CalleeOf source expression
        (.method (source.text field) ((node.child? "value").any (·.kind == .selfKeyword)))

section

variable {file : String} {source : Source} {imports : Imports} {scope : Scope} {call : CallSite}

theorem callOf?_iff_site {expression : Node} :
    callOf? file source imports scope expression = some call ↔
      ∃ callee, CalleeOf source expression callee ∧
        callee.site file source imports scope expression false = call := by
  rw [callOf?_eq_some_iff]
  constructor
  · intro h
    cases h with
    | method called kind fieldAt named => exact ⟨_, .method called kind fieldAt named, rfl⟩
    | @path callee name called kind last =>
      obtain ⟨front, hsegments⟩ := List.getLast?_eq_some_iff.mp last
      refine ⟨_, .path called kind hsegments, ?_⟩
      rw [hsegments]
      rfl
  · rintro ⟨callee, hcallee, rfl⟩
    cases hcallee with
    | method called kind fieldAt named => exact .method called kind fieldAt named
    | @path node front name called kind segments =>
      have hcall : CallOf file source imports scope expression _ :=
        .path called kind (by rw [segments]; exact List.getLast?_concat)
      rwa [segments] at hcall

end

/-! ### Tokens of a macro -/

/-- At some level of a row of tokens, a parenthesised group comes after the tokens `front`, which are listed from the
nearest one on.  The tokens before the row are given in the same way. -/
inductive GroupAfter (source : Source) : List Node → List Node → List Node → Prop where
  | here {before rest : List Node} {group : Node} (kind : group.kind = .tokenTree)
      (opens : isParenthesised source group = true) : GroupAfter source before (group :: rest) before
  | inside {before rest front : List Node} {tree : Node} (kind : tree.kind = .tokenTree)
      (deeper : GroupAfter source [] tree.children front) : GroupAfter source before (tree :: rest) front
  | later {before rest front : List Node} {token : Node} (after : GroupAfter source (token :: before) rest front) :
      GroupAfter source before (token :: rest) front

/-- The callee in front of a group, given the tokens before the group from the nearest one on, and the token that it
ends with.  The path is as long as it can be; `fn` in front of it makes a signature, which calls nothing. -/
inductive CalleeBefore (source : Source) : List Node → Node → Callee → Prop where
  | path {token : Node} {earlier rest : List Node} {front : List String} (kind : token.kind = .identifier)
      (run : pathBefore source [source.text token] earlier = (front ++ [source.text token], rest))
      (noMethod : rest.head?.map source.text ≠ some ".") (noSignature : rest.head?.map source.text ≠ some "fn") :
      CalleeBefore source (token :: earlier) token (.path front (source.text token))
  | method {token : Node} {earlier rest : List Node} {front : List String} (kind : token.kind = .identifier)
      (run : pathBefore source [source.text token] earlier = (front ++ [source.text token], rest))
      (dot : rest.head?.map source.text = some ".") :
      CalleeBefore source (token :: earlier) token
        (.method (source.text token) (front.isEmpty && rest[1]?.any fun token => token.kind == .selfKeyword))

/-- A path in front of a group only grows at its front. -/
theorem exists_pathBefore (source : Source) (segments : List String) (tokens : List Node) :
    ∃ front rest, pathBefore source segments tokens = (front ++ segments, rest) := by
  fun_induction pathBefore source segments tokens with
  | case1 segments separator atom rest _ ih =>
    obtain ⟨front, rest', hrun⟩ := ih
    refine ⟨front ++ [source.text atom], rest', ?_⟩
    rw [hrun, List.append_assoc]
    rfl
  | case2 segments separator atom rest _ => exact ⟨[], _, rfl⟩
  | case3 segments before _ => exact ⟨[], before, rfl⟩

section

variable {file : String} {source : Source} {imports : Imports} {scope : Scope} {call : CallSite}

theorem callBefore?_iff_site {before : List Node} :
    callBefore? file source imports scope before = some call ↔
      ∃ node callee, CalleeBefore source before node callee ∧
        callee.site file source imports scope node true = call := by
  cases before with
  | nil =>
    constructor
    · intro h
      exact absurd h (by simp [callBefore?])
    · rintro ⟨node, callee, hcallee, -⟩
      cases hcallee
  | cons token earlier =>
    obtain ⟨front, rest, hrun⟩ := exists_pathBefore source [source.text token] earlier
    have hself : ((front ++ [source.text token]).length == 1) = front.isEmpty := by
      cases front <;> simp
    rw [callBefore?]
    constructor
    · intro h
      split at h
      · rename_i kind
        rw [hrun] at h
        dsimp only at h
        rw [List.getLast?_concat, hself, pathCall?_append] at h
        split at h
        · rename_i dot
          exact ⟨token, _, .method (beq_iff_eq.mp kind) hrun dot, Option.some.inj h⟩
        · exact absurd h (by simp)
        · rename_i noMethod noSignature
          exact ⟨token, _, .path (beq_iff_eq.mp kind) hrun noMethod noSignature, Option.some.inj h⟩
      · exact absurd h (by simp)
    · rintro ⟨node, callee, hcallee, rfl⟩
      cases hcallee with
      | @path _ _ rest' front' kind run noMethod noSignature =>
        obtain ⟨hfront, rfl⟩ := Prod.mk.inj (hrun.symm.trans run)
        obtain rfl := List.append_cancel_right hfront
        rw [if_pos (beq_iff_eq.mpr kind), hrun]
        dsimp only
        rw [pathCall?_append]
        split
        · exact absurd ‹_› noMethod
        · exact absurd ‹_› noSignature
        · rfl
      | @method _ _ rest' front' kind run dot =>
        obtain ⟨hfront, rfl⟩ := Prod.mk.inj (hrun.symm.trans run)
        obtain rfl := List.append_cancel_right hfront
        rw [if_pos (beq_iff_eq.mpr kind), hrun]
        dsimp only
        rw [dot, List.getLast?_concat, hself]
        rfl

theorem mem_callsInToken_of_tree {before : List Node} {token : Node} (kind : token.kind = .tokenTree) :
    call ∈ callsInToken file source imports scope before token ↔
      call ∈ callsInTokens file source imports scope [] token.children ∨
        isParenthesised source token = true ∧ callBefore? file source imports scope before = some call := by
  obtain ⟨_, start, stop, field, named, missing, children⟩ := token
  obtain rfl := kind
  rw [callsInToken, List.mem_append]
  refine or_congr_right ?_
  split
  · rename_i opens
    rw [Option.mem_toList]
    exact ⟨fun h => ⟨opens, h⟩, And.right⟩
  · rename_i opens
    exact ⟨fun h => absurd h List.not_mem_nil, fun h => absurd h.1 opens⟩

theorem kind_of_mem_callsInToken {before : List Node} {token : Node}
    (h : call ∈ callsInToken file source imports scope before token) : token.kind = .tokenTree := by
  obtain ⟨kind, start, stop, field, named, missing, children⟩ := token
  rw [callsInToken.eq_def] at h
  dsimp only at h
  split at h
  · rfl
  · exact absurd h List.not_mem_nil

end

mutual

theorem groupAfter_of_mem_token (file : String) (source : Source) (imports : Imports) (scope : Scope)
    (call : CallSite) : ∀ (token : Node) (before rest : List Node),
      call ∈ callsInToken file source imports scope before token →
        ∃ front, GroupAfter source before (token :: rest) front ∧
          callBefore? file source imports scope front = some call
  | .mk kind start stop field named missing children, before, rest => by
    intro h
    have htree := kind_of_mem_callsInToken h
    rcases (mem_callsInToken_of_tree htree).mp h with h | ⟨opens, h⟩
    · obtain ⟨front, hgroup, hcall⟩ := groupAfter_of_mem_tokens file source imports scope call children [] h
      exact ⟨front, .inside htree hgroup, hcall⟩
    · exact ⟨before, .here htree opens, h⟩

theorem groupAfter_of_mem_tokens (file : String) (source : Source) (imports : Imports) (scope : Scope)
    (call : CallSite) : ∀ (tokens before : List Node),
      call ∈ callsInTokens file source imports scope before tokens →
        ∃ front, GroupAfter source before tokens front ∧ callBefore? file source imports scope front = some call
  | [], before => by
    intro h
    exact absurd h (by simp [callsInTokens])
  | token :: rest, before => by
    intro h
    rw [callsInTokens] at h
    rcases List.mem_append.mp h with h | h
    · exact groupAfter_of_mem_token file source imports scope call token before rest h
    · obtain ⟨front, hgroup, hcall⟩ := groupAfter_of_mem_tokens file source imports scope call rest (token :: before) h
      exact ⟨front, .later hgroup, hcall⟩

end

section

variable {file : String} {source : Source} {imports : Imports} {scope : Scope} {call : CallSite}

/-- The calls in a row of tokens are those in front of the groups in it, at any depth. -/
theorem mem_callsInTokens_iff {before tokens : List Node} :
    call ∈ callsInTokens file source imports scope before tokens ↔
      ∃ front, GroupAfter source before tokens front ∧ callBefore? file source imports scope front = some call := by
  constructor
  · exact groupAfter_of_mem_tokens file source imports scope call tokens before
  · rintro ⟨front, hgroup, hcall⟩
    induction hgroup with
    | here kind opens =>
      rw [callsInTokens]
      exact List.mem_append_left _ ((mem_callsInToken_of_tree kind).mpr (Or.inr ⟨opens, hcall⟩))
    | inside kind _ ih =>
      rw [callsInTokens]
      exact List.mem_append_left _ ((mem_callsInToken_of_tree kind).mpr (Or.inl (ih hcall)))
    | later _ ih =>
      rw [callsInTokens]
      exact List.mem_append_right _ (ih hcall)

end

/-! ### Files -/

/-- A call as it is written: the frames that are open there, the callee, and the node that the call is located by. -/
structure WrittenCall where
  frames : List Frame
  callee : Callee
  node : Node
  fromMacro : Bool

namespace WrittenCall

/-- The scope of a written call in a file. -/
def scope (file : String) (w : WrittenCall) : Scope :=
  ⟨ModulePath.ofFile file, w.frames⟩

/-- The call that is recorded for it. -/
def site (file : String) (source : Source) (imports : Imports) (w : WrittenCall) : CallSite :=
  w.callee.site file source imports (w.scope file) w.node w.fromMacro

end WrittenCall

/-- The calls that are written in a tree: in the call expressions that a walk from the root meets, and in the token
trees of the macros that it meets. -/
inductive Written (source : Source) (root : Node) : WrittenCall → Prop where
  | expression {v : Visit} {callee : Callee} (reached : Reached callStops source root v)
      (kind : v.node.kind = .callExpression) (called : CalleeOf source v.node callee) :
      Written source root ⟨v.frames, callee, v.node, false⟩
  | tokens {v : Visit} {tree node : Node} {front : List Node} {callee : Callee}
      (reached : Reached callStops source root v) (kind : v.node.kind = .macroInvocation)
      (part : tree ∈ v.node.namedChildren) (treeKind : tree.kind = .tokenTree)
      (group : GroupAfter source [] tree.children front) (called : CalleeBefore source front node callee) :
      Written source root ⟨v.frames, callee, node, true⟩

/-- A written call stands at a node that the walk meets. -/
theorem Written.reached {source : Source} {root : Node} {w : WrittenCall} (h : Written source root w) :
    ∃ v, Reached callStops source root v ∧ v.frames = w.frames := by
  cases h with
  | expression reached _ _ => exact ⟨_, reached, rfl⟩
  | tokens reached _ _ _ _ _ => exact ⟨_, reached, rfl⟩

/-- The calls at a node are in its call expression or in its token trees. -/
theorem mem_callsAt_places {file : String} {source : Source} {imports : Imports} {base : List String} {v : Visit}
    {call : CallSite} :
    call ∈ (v.places source base).flatMap (callsAt file source imports) ↔
      v.node.kind = .callExpression ∧ callOf? file source imports ⟨base, v.frames⟩ v.node = some call ∨
      v.node.kind = .macroInvocation ∧ ∃ tree ∈ v.node.namedChildren, tree.kind = .tokenTree ∧
        call ∈ callsInTokens file source imports ⟨base, v.frames⟩ [] tree.children := by
  rw [Visit.places, placesHere]
  split
  · rename_i kind
    split <;> simp [callsAt, kind]
  · rename_i kind
    simp [callsAt, kind]
  · rename_i kind
    simp [callsAt, kind, Node.namedChildren, List.mem_flatMap, and_assoc]
  · rename_i kind
    simp [callsAt, kind]
  · simp_all

/-- **The calls of a file are the records of what is written in it.** -/
theorem mem_calls_iff {file : String} {source : Source} {root : Node} {call : CallSite} :
    call ∈ (FileCalls.extract file source root).calls ↔
      ∃ w, Written source root w ∧ w.site file source (FileCalls.extract file source root).imports = call := by
  rw [FileCalls.calls_eq, places_eq, List.flatMap_assoc, List.mem_flatMap]
  simp only [mem_walk_iff, mem_callsAt_places, callOf?_iff_site, mem_callsInTokens_iff, callBefore?_iff_site]
  constructor
  · rintro ⟨v, reached, ⟨kind, callee, called, rfl⟩ |
      ⟨kind, tree, part, treeKind, front, group, node, callee, called, rfl⟩⟩
    · exact ⟨_, .expression reached kind called, rfl⟩
    · exact ⟨_, .tokens reached kind part treeKind group called, rfl⟩
  · rintro ⟨w, hw, rfl⟩
    cases hw with
    | @expression v callee reached kind called => exact ⟨v, reached, Or.inl ⟨kind, callee, called, rfl⟩⟩
    | @tokens v tree node front callee reached kind part treeKind group called =>
      exact ⟨v, reached, Or.inr ⟨kind, tree, part, treeKind, front, group, node, callee, called, rfl⟩⟩

theorem Written.mem_calls {file : String} {source : Source} {root : Node} {w : WrittenCall}
    (h : Written source root w) :
    w.site file source (FileCalls.extract file source root).imports ∈ (FileCalls.extract file source root).calls :=
  mem_calls_iff.mpr ⟨w, h, rfl⟩

/-- The text `fn x() {}` for a name `x`. -/
def bareText (name : String) : Source := .ofText ("fn " ++ name ++ "() \x7b\x7d")

/-- Its tree, if the name has one letter: a function that calls nothing. -/
def bareTree : Node :=
  .mk (.other "source_file") 0 9 none true false [
    .mk .functionItem 0 9 none true false [
      .mk .identifier 3 4 (some "name") true false [],
      .mk (.other "block") 7 9 (some "body") true false []]]

end Deadwood
