/-
Calls among the tokens of a macro.

The tokens of a macro form trees: a bracketed group is one token among its siblings.
A call shows as an identifier right in front of a group in parentheses, and the path
of the callee is read backwards from there.

* **`callsInTokens_eq`** — the scan goes through the groups from the inside out, and finds
  at most one call at each;
* **`mem_groupsAmong_iff`**, **`pairwise_groupsAmong`** — it meets every group at every depth
  once, in the order in which they close;
* **`longestPath_of_pathBefore`** — reading backwards as far as possible gives the longest
  path that ends with the identifier;
* **`macro_calls_exact`** — hence the calls among the tokens of a macro, for every tree.

The order is a matter of addresses.  Groups in one token have the place of that token in
front of their addresses, so they close before all groups in later tokens.
-/
import Deadwood.Proofs.Callees

namespace Deadwood

open Syntax

/-! ### Groups and their addresses -/

/-- A token tree at some depth of a row of tokens: its address, which is the list of places on the way down, the
siblings before it from the nearest one on, and the tree. -/
structure Group where
  address : List Nat
  before : List Node
  tree : Node

/-- The same group, seen from the row that has the tree around it at a given place. -/
def Group.under (i : Nat) (group : Group) : Group :=
  { group with address := i :: group.address }

/-- A group stands in a row of tokens, or inside a tree of the row. -/
inductive GroupAt : List Node → Group → Prop where
  | here {tokens : List Node} {tree : Node} {i : Nat} (part : tokens[i]? = some tree) (kind : tree.kind = .tokenTree) :
      GroupAt tokens ⟨[i], (tokens.take i).reverse, tree⟩
  | inside {tokens : List Node} {tree : Node} {i : Nat} {group : Group} (part : tokens[i]? = some tree)
      (kind : tree.kind = .tokenTree) (deeper : GroupAt tree.children group) : GroupAt tokens (group.under i)

/-- The order in which groups close: one inside another before it, and one on the left before one on the right. -/
inductive ClosesBefore : List Nat → List Nat → Prop where
  | inside (i : Nat) (address : List Nat) : ClosesBefore (i :: address) []
  | left {i j : Nat} (lt : i < j) (address address' : List Nat) : ClosesBefore (i :: address) (j :: address')
  | within {address address' : List Nat} (i : Nat) (closes : ClosesBefore address address') :
      ClosesBefore (i :: address) (i :: address')

theorem ClosesBefore.irrefl (address : List Nat) : ¬ ClosesBefore address address := by
  intro h
  induction address with
  | nil => cases h
  | cons i address ih =>
    cases h with
    | left lt => exact absurd lt (Nat.lt_irrefl i)
    | within _ closes => exact ih closes

theorem ClosesBefore.of_ne_nil {address : List Nat} (h : address ≠ []) : ClosesBefore address [] := by
  cases address with
  | nil => exact absurd rfl h
  | cons i address => exact .inside i address

mutual

/-- The groups in one token, as they close. -/
def groupsIn (before : List Node) : Node → List Group
  | token@(.mk kind _ _ _ _ _ children) =>
    if kind = .tokenTree then
      (groupsAmong [] children).map (.under before.length) ++ [⟨[before.length], before, token⟩]
    else []

/-- The groups in a row of tokens, as they close, given the tokens before the row from the nearest one on. -/
def groupsAmong (before : List Node) : List Node → List Group
  | [] => []
  | token :: rest => groupsIn before token ++ groupsAmong (token :: before) rest

end

theorem mem_groupsIn_iff {before : List Node} {token : Node} {group : Group} :
    group ∈ groupsIn before token ↔
      token.kind = .tokenTree ∧
        ((∃ inner ∈ groupsAmong [] token.children, inner.under before.length = group) ∨
          group = ⟨[before.length], before, token⟩) := by
  obtain ⟨kind, start, stop, field, named, missing, children⟩ := token
  rw [groupsIn]
  by_cases htree : kind = .tokenTree
  · simp [htree, Node.kind, Node.children]
  · simp [htree, Node.kind]

theorem mem_groupsAmong {before tokens : List Node} {group : Group} :
    group ∈ groupsAmong before tokens ↔
      ∃ i token, tokens[i]? = some token ∧ group ∈ groupsIn ((tokens.take i).reverse ++ before) token := by
  induction tokens generalizing before with
  | nil => simp [groupsAmong]
  | cons first rest ih =>
    rw [groupsAmong, List.mem_append, ih]
    constructor
    · rintro (h | ⟨i, token, htoken, h⟩)
      · exact ⟨0, first, rfl, h⟩
      · refine ⟨i + 1, token, htoken, ?_⟩
        rwa [List.take_succ_cons, List.reverse_cons, List.append_assoc]
    · rintro ⟨i, token, htoken, h⟩
      cases i with
      | zero =>
        obtain rfl : first = token := Option.some.inj htoken
        exact Or.inl h
      | succ i =>
        rw [List.take_succ_cons, List.reverse_cons, List.append_assoc] at h
        exact Or.inr ⟨i, token, htoken, h⟩

/-- The list holds the groups at all depths. -/
theorem mem_groupsAmong_iff {tokens : List Node} {group : Group} :
    group ∈ groupsAmong [] tokens ↔ GroupAt tokens group := by
  constructor
  · -- A group further in has a shorter address, whichever tree it is in.
    intro h
    induction haddress : group.address generalizing group tokens with
    | nil =>
      obtain ⟨i, token, -, h⟩ := mem_groupsAmong.mp h
      obtain ⟨-, ⟨inner, -, rfl⟩ | rfl⟩ := mem_groupsIn_iff.mp h
      · exact absurd haddress (List.cons_ne_nil _ _)
      · exact absurd haddress (List.cons_ne_nil _ _)
    | cons j address ih =>
      obtain ⟨i, token, htoken, h⟩ := mem_groupsAmong.mp h
      rw [List.append_nil] at h
      obtain ⟨kind, h⟩ := mem_groupsIn_iff.mp h
      rw [length_before htoken] at h
      rcases h with ⟨inner, hinner, rfl⟩ | rfl
      · exact .inside htoken kind (ih hinner (List.cons.inj haddress).2)
      · exact .here htoken kind
  · intro h
    induction h with
    | here part kind =>
      refine mem_groupsAmong.mpr ⟨_, _, part, mem_groupsIn_iff.mpr ⟨kind, Or.inr ?_⟩⟩
      rw [List.append_nil, length_before part]
    | inside part kind _ ih =>
      refine mem_groupsAmong.mpr ⟨_, _, part, mem_groupsIn_iff.mpr ⟨kind, Or.inl ⟨_, ih, ?_⟩⟩⟩
      rw [List.append_nil, length_before part]

theorem GroupAt.address_ne_nil {tokens : List Node} {group : Group} (h : GroupAt tokens group) :
    group.address ≠ [] := by
  cases h with
  | here => exact List.cons_ne_nil _ _
  | inside => exact List.cons_ne_nil _ _

/-- There is one group at an address. -/
theorem GroupAt.unique {tokens : List Node} {group group' : Group} (h : GroupAt tokens group)
    (h' : GroupAt tokens group') (heq : group.address = group'.address) : group = group' := by
  induction h generalizing group' with
  | here part kind =>
    cases h' with
    | here part' _ =>
      obtain ⟨rfl, -⟩ := List.cons.inj heq
      rw [Option.some.inj (part.symm.trans part')]
    | inside _ _ deeper =>
      obtain ⟨-, hnil⟩ := List.cons.inj heq
      exact absurd hnil.symm deeper.address_ne_nil
  | inside part kind deeper ih =>
    cases h' with
    | here =>
      obtain ⟨-, hnil⟩ := List.cons.inj heq
      exact absurd hnil deeper.address_ne_nil
    | inside part' _ deeper' =>
      obtain ⟨rfl, haddress⟩ := List.cons.inj heq
      obtain rfl := Option.some.inj (part.symm.trans part')
      rw [ih deeper' haddress]

/-! ### The order of the scan -/

theorem exists_address_of_mem_groupsIn {before : List Node} {token : Node} {group : Group}
    (h : group ∈ groupsIn before token) : ∃ address, group.address = before.length :: address := by
  obtain ⟨-, ⟨inner, -, rfl⟩ | rfl⟩ := mem_groupsIn_iff.mp h
  · exact ⟨inner.address, rfl⟩
  · exact ⟨[], rfl⟩

mutual

theorem pairwise_groupsIn : ∀ (token : Node) (before : List Node),
    (groupsIn before token).Pairwise fun first second => ClosesBefore first.address second.address
  | .mk kind start stop field named missing children, before => by
    rw [groupsIn]
    split
    · refine List.pairwise_append.mpr ⟨List.pairwise_map.mpr ?_, List.pairwise_singleton _ _, ?_⟩
      · exact (pairwise_groupsAmong children []).imp fun hcloses => .within _ hcloses
      · -- The group itself closes after all that is inside of it.
        intro group hgroup last hlast
        obtain ⟨inner, hinner, rfl⟩ := List.mem_map.mp hgroup
        obtain rfl := List.mem_singleton.mp hlast
        exact .within _ (.of_ne_nil (mem_groupsAmong_iff.mp hinner).address_ne_nil)
    · exact List.Pairwise.nil

theorem pairwise_groupsAmong : ∀ (tokens before : List Node),
    (groupsAmong before tokens).Pairwise fun first second => ClosesBefore first.address second.address
  | [], _ => by
    rw [groupsAmong]
    exact List.Pairwise.nil
  | token :: rest, before => by
    rw [groupsAmong]
    refine List.pairwise_append.mpr ⟨pairwise_groupsIn token before, pairwise_groupsAmong rest (token :: before), ?_⟩
    intro group hgroup later hlater
    obtain ⟨address, haddress⟩ := exists_address_of_mem_groupsIn hgroup
    obtain ⟨i, other, -, hlater⟩ := mem_groupsAmong.mp hlater
    obtain ⟨address', haddress'⟩ := exists_address_of_mem_groupsIn hlater
    rw [haddress, haddress']
    refine .left ?_ address address'
    rw [List.length_append, List.length_cons]
    omega

end

/-- The call in front of a group. -/
def Group.call? (file : String) (source : Source) (imports : Imports) (scope : Scope) (group : Group) :
    Option CallSite :=
  if isParenthesised source group.tree then callBefore? file source imports scope group.before else none

mutual

theorem callsInToken_eq (file : String) (source : Source) (imports : Imports) (scope : Scope) :
    ∀ (token : Node) (before : List Node),
      callsInToken file source imports scope before token =
        (groupsIn before token).filterMap (Group.call? file source imports scope)
  | .mk kind start stop field named missing children, before => by
    by_cases htree : kind = .tokenTree
    · have hunder : Group.call? file source imports scope ∘ Group.under before.length =
          Group.call? file source imports scope := rfl
      rw [htree, callsInToken, groupsIn, if_pos rfl, List.filterMap_append, List.filterMap_map, hunder,
        callsInTokens_eq file source imports scope children []]
      congr 1
      rw [List.filterMap_cons, List.filterMap_nil, Group.call?]
      split
      · cases callBefore? file source imports scope before with
        | none => rfl
        | some call => rfl
      · rfl
    · rw [groupsIn, if_neg htree, List.filterMap_nil]
      exact List.eq_nil_iff_forall_not_mem.mpr fun call h => htree (kind_of_mem_callsInToken h)

/-- The scan finds at most one call at each group, and goes through the groups as they close. -/
theorem callsInTokens_eq (file : String) (source : Source) (imports : Imports) (scope : Scope) :
    ∀ (tokens before : List Node),
      callsInTokens file source imports scope before tokens =
        (groupsAmong before tokens).filterMap (Group.call? file source imports scope)
  | [], before => by
    rw [callsInTokens, groupsAmong]
    rfl
  | token :: rest, before => by
    rw [callsInTokens, groupsAmong, List.filterMap_append, callsInToken_eq file source imports scope token before,
      callsInTokens_eq file source imports scope rest (token :: before)]

end

/-! ### The path in front of a group -/

/-- Tokens that qualify a name: each of them an atom with `::` after it.  They come from the nearest one on, and the
segments in the order of the text. -/
inductive Qualifies (source : Source) : List Node → List String → Prop where
  | nil : Qualifies source [] []
  | atom {separator atom : Node} {tokens : List Node} {front : List String}
      (between : source.text separator = ModulePath.separator) (kind : isPathAtom atom.kind = true)
      (earlier : Qualifies source tokens front) :
      Qualifies source (separator :: atom :: tokens) (front ++ [source.text atom])

/-- The longest path that ends with a name, given the tokens before the name from the nearest one on: its segments in
front of the name, and the tokens before the path. -/
structure LongestPath (source : Source) (earlier : List Node) (front : List String) (rest : List Node) : Prop where
  splits : ∃ run, earlier = run ++ rest ∧ Qualifies source run front
  longest : ∀ run' front' rest', earlier = run' ++ rest' → Qualifies source run' front' → rest.length ≤ rest'.length

/-- A name that nothing qualifies is a path by itself. -/
theorem longestPath_nil {source : Source} {earlier : List Node}
    (h : ∀ separator atom rest, earlier = separator :: atom :: rest →
      source.text separator = ModulePath.separator → isPathAtom atom.kind ≠ true) :
    LongestPath source earlier [] earlier := by
  refine ⟨⟨[], rfl, .nil⟩, fun run front rest hsplit hrun => ?_⟩
  cases hrun with
  | nil => exact Nat.le_of_eq (congrArg List.length hsplit)
  | atom between kind _ => exact absurd kind (h _ _ _ hsplit between)

/-- One atom more makes the longest path longer by a segment. -/
theorem LongestPath.atom {source : Source} {separator atom : Node} {earlier rest : List Node} {front : List String}
    (between : source.text separator = ModulePath.separator) (kind : isPathAtom atom.kind = true)
    (h : LongestPath source earlier front rest) :
    LongestPath source (separator :: atom :: earlier) (front ++ [source.text atom]) rest := by
  obtain ⟨⟨run, rfl, hrun⟩, hlongest⟩ := h
  refine ⟨⟨separator :: atom :: run, rfl, .atom between kind hrun⟩, fun run' front' rest' hsplit hrun' => ?_⟩
  cases hrun' with
  | nil =>
    obtain rfl : separator :: atom :: (run ++ rest) = rest' := hsplit
    simp only [List.length_cons, List.length_append]
    omega
  | atom _ _ hrun' =>
    simp only [List.cons_append, List.cons.injEq] at hsplit
    exact hlongest _ _ _ hsplit.2.2 hrun'

/-- Reading backwards as far as possible gives the longest path. -/
theorem longestPath_of_pathBefore {source : Source} {segments front : List String} {earlier rest : List Node}
    (h : pathBefore source segments earlier = (front ++ segments, rest)) : LongestPath source earlier front rest := by
  fun_induction pathBefore source segments earlier generalizing front with
  | case1 segments separator atom tokens hread ih =>
    obtain ⟨hseparator, hatom⟩ := Bool.and_eq_true_iff.mp hread
    obtain ⟨inner, rest', hrun⟩ := exists_pathBefore source (source.text atom :: segments) tokens
    obtain ⟨hfront, rfl⟩ := Prod.mk.inj (hrun.symm.trans h)
    obtain rfl : inner ++ [source.text atom] = front := by
      rw [← List.append_cancel_right_eq _ segments, ← hfront, List.append_assoc]
      rfl
    exact (ih hrun).atom (beq_iff_eq.mp hseparator) hatom
  | case2 segments separator atom tokens hread =>
    obtain ⟨hfront, rfl⟩ := Prod.mk.inj h
    obtain rfl : [] = front := List.append_cancel_right hfront
    refine longestPath_nil fun separator' atom' rest' hsplit between kind => hread ?_
    simp only [List.cons.injEq] at hsplit
    obtain ⟨rfl, rfl, -⟩ := hsplit
    exact Bool.and_eq_true_iff.mpr ⟨beq_iff_eq.mpr between, kind⟩
  | case3 segments tokens hshort =>
    obtain ⟨hfront, rfl⟩ := Prod.mk.inj h
    obtain rfl : [] = front := List.append_cancel_right hfront
    exact longestPath_nil fun separator atom rest hsplit => absurd hsplit (hshort separator atom rest)

/-! ### The calls of a macro -/

/-- At an address in a token tree stands a group in parentheses with an identifier right in front of it; the tokens
before the identifier come from the nearest one on. -/
def NamedAt (source : Source) (tree : Node) (address : List Nat) (name : Node) (earlier : List Node) : Prop :=
  ∃ group, GroupAt tree.children ⟨address, name :: earlier, group⟩ ∧ name.kind = .identifier ∧
    group.children.head?.map source.text = some "("

/-- The record of a call of a name, whose path has the given segments in front of the name, and some tokens before it
from the nearest one on. -/
structure RecordedAs (file : String) (source : Source) (imports : Imports) (scope : Scope) (name : Node)
    (front : List String) (rest : List Node) (call : CallSite) : Prop where
  callee_eq : call.callee = source.text name
  file_eq : call.file = file
  span_eq : call.span = source.span name
  enclosing_eq : call.enclosing = scope.enclosing
  fromMacro_eq : call.fromMacro = true
  method_iff : call.isMethodCall = true ↔ rest.head?.map source.text = some "."
  of_method : rest.head?.map source.text = some "." →
    call.path = none ∧ call.resolved =
      if front = [] ∧ rest[1]?.map Node.kind = some .selfKeyword then ownMethodPath? scope (source.text name) else none
  of_path : rest.head?.map source.text ≠ some "." →
    (call.path, call.resolved) = qualify imports scope (front ++ [source.text name])

section

variable {file : String} {source : Source} {imports : Imports} {scope : Scope} {name : Node} {front : List String}
  {earlier rest : List Node}

theorem isParenthesised_iff {tree : Node} :
    isParenthesised source tree = true ↔ tree.children.head?.map source.text = some "(" := by
  rw [isParenthesised]
  cases tree.children.head? with
  | none => simp
  | some token => simp

/-- An identifier with `fn` before its path is not called. -/
theorem callBefore?_of_signature
    (run : pathBefore source [source.text name] earlier = (front ++ [source.text name], rest))
    (signature : rest.head?.map source.text = some "fn") :
    callBefore? file source imports scope (name :: earlier) = none := by
  refine Option.eq_none_iff_forall_ne_some.mpr fun call hcall => ?_
  obtain ⟨node, callee, hcallee, -⟩ := callBefore?_iff_site.mp hcall
  cases hcallee with
  | path _ run' _ noSignature =>
    obtain ⟨-, rfl⟩ := Prod.mk.inj (run.symm.trans run')
    exact noSignature signature
  | method _ run' dot =>
    obtain ⟨-, rfl⟩ := Prod.mk.inj (run.symm.trans run')
    exact absurd (signature.symm.trans dot) (by decide)

/-- Every other identifier is called. -/
theorem exists_callBefore? (kind : name.kind = .identifier)
    (run : pathBefore source [source.text name] earlier = (front ++ [source.text name], rest))
    (noSignature : rest.head?.map source.text ≠ some "fn") :
    ∃ call, callBefore? file source imports scope (name :: earlier) = some call ∧
      RecordedAs file source imports scope name front rest call := by
  by_cases dot : rest.head?.map source.text = some "."
  · refine ⟨_, callBefore?_iff_site.mpr ⟨name, _, .method kind run dot, rfl⟩, ?_⟩
    refine ⟨rfl, rfl, rfl, rfl, rfl, iff_of_true rfl dot, fun _ => ⟨rfl, ?_⟩, fun noDot => absurd dot noDot⟩
    have hself : (front.isEmpty && rest[1]?.any fun token => token.kind == .selfKeyword) = true ↔
        front = [] ∧ rest[1]?.map Node.kind = some .selfKeyword := by
      rw [Bool.and_eq_true_iff, List.isEmpty_iff]
      cases rest[1]? with
      | none => simp
      | some token => simp
    exact if_congr hself rfl rfl
  · refine ⟨_, callBefore?_iff_site.mpr ⟨name, _, .path kind run dot noSignature, rfl⟩, ?_⟩
    exact ⟨rfl, rfl, rfl, rfl, rfl, iff_of_false Bool.false_ne_true dot, fun h => absurd h dot, fun _ => rfl⟩

end

/-- The calls among the tokens of a tree, each with the address of its group. -/
def locatedCalls (file : String) (source : Source) (imports : Imports) (scope : Scope) (tree : Node) :
    List (List Nat × CallSite) :=
  (groupsAmong [] tree.children).filterMap fun group =>
    (group.call? file source imports scope).map (group.address, ·)

section

variable {file : String} {source : Source} {imports : Imports} {scope : Scope} {tree name : Node} {address : List Nat}
  {earlier : List Node} {call : CallSite}

theorem map_snd_locatedCalls :
    (locatedCalls file source imports scope tree).map (·.2) = callsAt file source imports (.tokens scope tree) := by
  rw [callsAt, callsInTokens_eq, locatedCalls, List.map_filterMap]
  congr 1
  funext group
  rw [Option.map_map]
  exact Option.map_id'

theorem mem_locatedCalls :
    (address, call) ∈ locatedCalls file source imports scope tree ↔
      ∃ group, GroupAt tree.children group ∧ group.address = address ∧
        group.call? file source imports scope = some call := by
  rw [locatedCalls, List.mem_filterMap]
  simp only [mem_groupsAmong_iff, Option.map_eq_some_iff, Prod.mk.injEq]
  constructor
  · rintro ⟨group, hgroup, other, hcall, haddress, rfl⟩
    exact ⟨group, hgroup, haddress, hcall⟩
  · rintro ⟨group, hgroup, haddress, hcall⟩
    exact ⟨group, hgroup, call, hcall, haddress, rfl⟩

theorem pairwise_locatedCalls :
    (locatedCalls file source imports scope tree).Pairwise fun first second => ClosesBefore first.1 second.1 := by
  refine List.pairwise_filterMap.mpr ((pairwise_groupsAmong tree.children []).imp ?_)
  intro group later hcloses first hfirst second hsecond
  obtain ⟨_, -, rfl⟩ := Option.map_eq_some_iff.mp hfirst
  obtain ⟨_, -, rfl⟩ := Option.map_eq_some_iff.mp hsecond
  exact hcloses

/-- At the group of an identifier, only the call of that identifier is recorded. -/
theorem NamedAt.mem_locatedCalls (h : NamedAt source tree address name earlier) :
    (address, call) ∈ locatedCalls file source imports scope tree ↔
      callBefore? file source imports scope (name :: earlier) = some call := by
  obtain ⟨group, hgroup, -, hopens⟩ := h
  have hcall : Group.call? file source imports scope ⟨address, name :: earlier, group⟩ =
      callBefore? file source imports scope (name :: earlier) := if_pos (isParenthesised_iff.mpr hopens)
  rw [Deadwood.mem_locatedCalls, ← hcall]
  constructor
  · rintro ⟨other, hother, haddress, hcalled⟩
    rwa [hother.unique hgroup haddress] at hcalled
  · exact fun hcalled => ⟨_, hgroup, rfl, hcalled⟩

/-- A call is recorded only at the group of an identifier. -/
theorem namedAt_of_mem_locatedCalls (h : (address, call) ∈ locatedCalls file source imports scope tree) :
    ∃ name earlier, NamedAt source tree address name earlier := by
  obtain ⟨⟨_, before, group⟩, hgroup, rfl, hcall⟩ := mem_locatedCalls.mp h
  rw [Group.call?] at hcall
  split at hcall
  · rename_i hopens
    obtain ⟨node, callee, hcallee, -⟩ := callBefore?_iff_site.mp hcall
    cases hcallee with
    | path kind _ _ _ => exact ⟨_, _, group, hgroup, kind, isParenthesised_iff.mp hopens⟩
    | method kind _ _ => exact ⟨_, _, group, hgroup, kind, isParenthesised_iff.mp hopens⟩
  · exact absurd hcall (by simp)

end

/-- **The calls among the tokens of a macro.**  Every identifier right in front of a group in parentheses, at any depth
of a token tree, is recorded as one call, unless `fn` stands before its path, and nothing else is.  The path is the
longest one that ends with the identifier.  The calls come in the order in which their groups close: those in the
arguments of a call before the call, and siblings from left to right. -/
theorem macro_calls_exact (file : String) (source : Source) (imports : Imports) (scope : Scope) (tree : Node) :
    ∃ found : List (List Nat × CallSite),
      callsAt file source imports (.tokens scope tree) = found.map (·.2) ∧
      found.Pairwise (fun first second => ClosesBefore first.1 second.1) ∧ (found.map (·.1)).Nodup ∧
      (∀ entry ∈ found, ∃ name earlier, NamedAt source tree entry.1 name earlier) ∧
      ∀ address name earlier, NamedAt source tree address name earlier →
        ∃ front rest, LongestPath source earlier front rest ∧
          (rest.head?.map source.text = some "fn" → ∀ call, (address, call) ∉ found) ∧
          (rest.head?.map source.text ≠ some "fn" →
            ∃ call, (address, call) ∈ found ∧ RecordedAs file source imports scope name front rest call) := by
  refine ⟨locatedCalls file source imports scope tree, map_snd_locatedCalls.symm, pairwise_locatedCalls, ?_,
    fun entry hentry => namedAt_of_mem_locatedCalls hentry, fun address name earlier hnamed => ?_⟩
  · refine List.pairwise_map.mpr (pairwise_locatedCalls.imp fun {first second} hcloses heq => ?_)
    rw [heq] at hcloses
    exact ClosesBefore.irrefl second.1 hcloses
  · obtain ⟨front, rest, hrun⟩ := exists_pathBefore source [source.text name] earlier
    have hkind : name.kind = .identifier := hnamed.choose_spec.2.1
    refine ⟨front, rest, longestPath_of_pathBefore hrun, fun signature call hcall => ?_, fun noSignature => ?_⟩
    · have hnone := hnamed.mem_locatedCalls.mp hcall
      rw [callBefore?_of_signature hrun signature] at hnone
      exact absurd hnone (by simp)
    · obtain ⟨call, hcall, hrecorded⟩ := exists_callBefore? hkind hrun noSignature
      exact ⟨call, hnamed.mem_locatedCalls.mpr hcall, hrecorded⟩

/-- A token without parts. -/
def plainToken (kind : Kind) (start stop : Nat) : Node := .mk kind start stop none true false []

-- In `(fn h() a::f(x.g()))` the signature of `h` is no call, and `g` comes before the call it is an argument of.
example :
    (callsAt "src/lib.rs" (.ofText "(fn h() a::f(x.g()))") {} (.tokens ⟨[], []⟩
      (.mk .tokenTree 0 20 none true false [
        plainToken (.other "(") 0 1, plainToken (.other "fn") 1 3, plainToken .identifier 4 5,
        .mk .tokenTree 5 7 none true false [plainToken (.other "(") 5 6, plainToken (.other ")") 6 7],
        plainToken .identifier 8 9, plainToken (.other "::") 9 11, plainToken .identifier 11 12,
        .mk .tokenTree 12 19 none true false [
          plainToken (.other "(") 12 13, plainToken .identifier 13 14, plainToken (.other ".") 14 15,
          plainToken .identifier 15 16,
          .mk .tokenTree 16 18 none true false [plainToken (.other "(") 16 17, plainToken (.other ")") 17 18],
          plainToken (.other ")") 18 19],
        plainToken (.other ")") 19 20]))).map (fun call => (call.callee, call.path, call.isMethodCall)) =
      [("g", none, true), ("f", some "a::f", false)] := by
  decide +kernel

end Deadwood
