/-
Which nodes of a syntax tree a walk meets, and in which order.

Declarations and calls are found by walks that differ only in the kinds of node
they do not look into.  A walk goes from the root through named children.  A
function, a module and an `impl` or `trait` item open a frame and are entered
through their body; all other nodes are passed through.

`Passes` is one step of this, as a relation.  A `Visit` has the *address* of a node,
which is the list of places of children on the way down from the root, and what the
way has opened.  The main statements are

* **`mem_walk_iff`** — `walk` lists exactly the visits that steps lead to;
* **`pairwise_walk`** — in the order of the text: an address comes before what it
  extends, and an earlier child before a later one;
* **`gather`** — whatever is computed at a node from the node and from the visits one
  step below is collected along the walk.

The order needs two lemmas.  Two visits one step below the same node part at some
place (`Precedes`), and what lies below them parts at the same place.
-/
import Deadwood.CallSite.Extract
import Mathlib.Data.List.Infix
import Mathlib.Data.List.Lex
import Mathlib.Logic.Relation

namespace Deadwood

open Syntax
open Relation (ReflTransGen)

/-- A node that a walk meets: its address, the frames that are open there (outermost first), the owner if it stands
directly in the body of an `impl` or `trait` item, and the siblings before it from the nearest one on. -/
structure Visit where
  address : List Nat
  frames : List Frame
  owner : Option Owner
  before : List Node
  node : Node

/-! ### Addresses -/

namespace Visit

/-- The visit to a part of a node whose address is given. -/
def toPart (address : List Nat) (frames : List Frame) (owner : Option Owner) (parts : List Node) (i : Nat)
    (node : Node) : Visit :=
  ⟨address ++ [i], frames, owner, (parts.take i).reverse, node⟩

/-- The order of the text. -/
def Before (v w : Visit) : Prop :=
  List.Lex (· < ·) v.address w.address

/-- Two visits part at some place, and the first goes to an earlier child there. -/
def Precedes (v w : Visit) : Prop :=
  ∃ (front : List Nat) (i j : Nat), i < j ∧ front ++ [i] <+: v.address ∧ front ++ [j] <+: w.address

theorem before_of_prefix {v w : Visit} {i : Nat} (h : v.address ++ [i] <+: w.address) : v.Before w := by
  obtain ⟨rest, hrest⟩ := h
  have hlonger : List.Lex (· < ·) (v.address ++ []) (v.address ++ ([i] ++ rest)) :=
    List.Lex.append_left _ List.Lex.nil _
  rwa [List.append_nil, ← List.append_assoc, hrest] at hlonger

theorem Precedes.before {v w : Visit} (h : v.Precedes w) : v.Before w := by
  obtain ⟨front, i, j, hij, ⟨s, hs⟩, ⟨t, ht⟩⟩ := h
  rw [Before, ← hs, ← ht, List.append_assoc, List.append_assoc]
  exact List.Lex.append_left _ (List.Lex.rel hij) _

/-- What lies below two visits parts where they part. -/
theorem Precedes.extend {v w v' w' : Visit} (h : v.Precedes w) (hv : v.address <+: v'.address)
    (hw : w.address <+: w'.address) : v'.Precedes w' := by
  obtain ⟨front, i, j, hij, hi, hj⟩ := h
  exact ⟨front, i, j, hij, hi.trans hv, hj.trans hw⟩

end Visit

/-! ### One step -/

/-- A body is the first of several nodes that fills that field, at a given place. -/
def BodyAt (nodes : List Node) (i : Nat) (body : Node) : Prop :=
  nodes[i]? = some body ∧ body.field = some "body" ∧
    ∀ j < i, ∀ node, nodes[j]? = some node → node.field ≠ some "body"

/-- A body that comes second, after something else. -/
theorem BodyAt.second {first body : Node} (rest : List Node) (hfirst : first.field ≠ some "body")
    (hbody : body.field = some "body") : BodyAt (first :: body :: rest) 1 body := by
  refine ⟨rfl, hbody, fun j hj node hnode => ?_⟩
  obtain rfl : j = 0 := Nat.lt_one_iff.mp hj
  rw [← Option.some.inj hnode]
  exact hfirst

/-- The kinds of node that open a frame. -/
def itemKinds : List Kind := [.functionItem, .modItem, .implItem, .traitItem]

/-- One step of a walk that does not look into some kinds of node. -/
inductive Passes (closed : List Kind) (source : Source) : Visit → Visit → Prop where
  /-- Into the body of a function with a name and without an error. -/
  | function {v : Visit} {name : String} {i : Nat} {body : Node} (kind : v.node.kind = .functionItem)
      (sound : enterable? source v.node = some name) (bodyAt : BodyAt v.node.children i body) :
      Passes closed source v
        (.toPart v.address (v.frames ++ [⟨.function, name⟩]) none v.node.children i body)
  /-- To a named part of the body of a module with a name. -/
  | module {v : Visit} {name : String} {i j : Nat} {body node : Node} (kind : v.node.kind = .modItem)
      (sound : moduleName? source v.node = some name) (bodyAt : BodyAt v.node.children i body)
      (part : body.children[j]? = some node) (named : node.named = true) :
      Passes closed source v
        (.toPart (v.address ++ [i]) (v.frames ++ [⟨.module, name⟩]) none body.children j node)
  /-- To a named part of the body of an `impl` or `trait` item, which becomes its owner. -/
  | member {v : Visit} {i j : Nat} {body node : Node} (kind : v.node.kind ∈ [Kind.implItem, .traitItem])
      (bodyAt : BodyAt v.node.children i body) (part : body.children[j]? = some node) (named : node.named = true) :
      Passes closed source v
        (.toPart (v.address ++ [i]) (v.frames ++ [⟨.owner, (Owner.ofItem source v.node).name⟩])
          (some (Owner.ofItem source v.node)) body.children j node)
  /-- To a named part of any other node that is looked into. -/
  | through {v : Visit} {i : Nat} {node : Node} (plain : v.node.kind ∉ itemKinds) (looked : v.node.kind ∉ closed)
      (part : v.node.children[i]? = some node) (named : node.named = true) :
      Passes closed source v (.toPart v.address v.frames none v.node.children i node)

/-- A walk from the root meets a visit. -/
def Reached (closed : List Kind) (source : Source) (root : Node) (v : Visit) : Prop :=
  ∃ i top, root.children[i]? = some top ∧ top.named = true ∧
    ReflTransGen (Passes closed source) (.toPart [] [] none root.children i top) v

/-! ### The visits one step below -/

/-- The visits to the named ones of several siblings, of which those before are given. -/
def amongVisits (address : List Nat) (frames : List Frame) (owner : Option Owner) (before : List Node) :
    List Node → List Visit
  | [] => []
  | node :: rest =>
    (if node.named then [⟨address ++ [before.length], frames, owner, before, node⟩] else []) ++
      amongVisits address frames owner (node :: before) rest

/-- The first of several siblings that is a body, after those before it. -/
def findBody? (before : List Node) : List Node → Option (List Node × Node)
  | [] => none
  | node :: rest => if node.field == some "body" then some (before, node) else findBody? (node :: before) rest

/-- The visit to the body of a function. -/
def functionVisits (address : List Nat) (frames : List Frame) (nodes : List Node) : List Visit :=
  match findBody? [] nodes with
  | none => []
  | some (before, body) => [⟨address ++ [before.length], frames, none, before, body⟩]

/-- The visits among the parts of the body of any other item. -/
def bodyVisits (address : List Nat) (frames : List Frame) (owner : Option Owner) (nodes : List Node) : List Visit :=
  match findBody? [] nodes with
  | none => []
  | some (before, body) => amongVisits (address ++ [before.length]) frames owner [] body.children

/-- The visits one step below a visit, in the order of the text. -/
def partVisits (closed : List Kind) (source : Source) (v : Visit) : List Visit :=
  match v.node.kind with
  | .functionItem => match enterable? source v.node with
    | none => []
    | some name => functionVisits v.address (v.frames ++ [⟨.function, name⟩]) v.node.children
  | .modItem => match moduleName? source v.node with
    | none => []
    | some name => bodyVisits v.address (v.frames ++ [⟨.module, name⟩]) none v.node.children
  | .implItem | .traitItem =>
    bodyVisits v.address (v.frames ++ [⟨.owner, (Owner.ofItem source v.node).name⟩])
      (some (Owner.ofItem source v.node)) v.node.children
  | kind => if kind ∈ closed then [] else amongVisits v.address v.frames none [] v.node.children

theorem mem_amongVisits {address : List Nat} {frames : List Frame} {owner : Option Owner} {before nodes : List Node}
    {u : Visit} :
    u ∈ amongVisits address frames owner before nodes ↔
      ∃ i node, nodes[i]? = some node ∧ node.named = true ∧
        u = ⟨address ++ [before.length + i], frames, owner, (nodes.take i).reverse ++ before, node⟩ := by
  induction nodes generalizing before with
  | nil => simp [amongVisits]
  | cons node rest ih =>
    rw [amongVisits, List.mem_append, ih]
    constructor
    · rintro (h | ⟨i, part, hpart, hnamed, rfl⟩)
      · split at h
        · rename_i hnamed
          obtain rfl := List.mem_singleton.mp h
          exact ⟨0, node, rfl, hnamed, rfl⟩
        · exact absurd h List.not_mem_nil
      · refine ⟨i + 1, part, hpart, hnamed, ?_⟩
        rw [List.length_cons, List.take_succ_cons, List.reverse_cons, List.append_assoc,
          Nat.add_right_comm, Nat.add_assoc]
        rfl
    · rintro ⟨i, part, hpart, hnamed, rfl⟩
      cases i with
      | zero =>
        obtain rfl : node = part := Option.some.inj hpart
        exact Or.inl (by rw [if_pos hnamed]; exact List.mem_singleton.mpr rfl)
      | succ i =>
        refine Or.inr ⟨i, part, hpart, hnamed, ?_⟩
        rw [List.length_cons, List.take_succ_cons, List.reverse_cons, List.append_assoc,
          Nat.add_right_comm, Nat.add_assoc]
        rfl

theorem findBody?_eq_some_iff {before before' nodes : List Node} {body : Node} :
    findBody? before nodes = some (before', body) ↔
      ∃ i, BodyAt nodes i body ∧ before' = (nodes.take i).reverse ++ before := by
  induction nodes generalizing before with
  | nil => simp [findBody?, BodyAt]
  | cons node rest ih =>
    rw [findBody?]
    by_cases hfield : node.field = some "body"
    -- The head is the body, so it is the one at place 0 and no other is the first.
    · rw [if_pos (beq_iff_eq.mpr hfield)]
      constructor
      · intro h
        obtain ⟨rfl, rfl⟩ := Prod.mk.inj (Option.some.inj h)
        exact ⟨0, ⟨rfl, hfield, fun j hj => absurd hj (Nat.not_lt_zero j)⟩, rfl⟩
      · rintro ⟨i, ⟨hbody, -, hfirst⟩, rfl⟩
        cases i with
        | zero =>
          obtain rfl : node = body := Option.some.inj hbody
          rfl
        | succ i => exact absurd hfield (hfirst 0 (Nat.succ_pos i) node rfl)
    -- The head is passed over, and every place moves by one.
    · rw [if_neg fun h => hfield (beq_iff_eq.mp h), ih]
      constructor
      · rintro ⟨i, ⟨hbody, hbodyField, hfirst⟩, rfl⟩
        refine ⟨i + 1, ⟨hbody, hbodyField, fun j hj child hchild => ?_⟩, ?_⟩
        · cases j with
          | zero =>
            obtain rfl : node = child := Option.some.inj hchild
            exact hfield
          | succ j => exact hfirst j (Nat.lt_of_succ_lt_succ hj) child hchild
        · rw [List.take_succ_cons, List.reverse_cons, List.append_assoc]
          rfl
      · rintro ⟨i, ⟨hbody, hbodyField, hfirst⟩, rfl⟩
        cases i with
        | zero =>
          obtain rfl : node = body := Option.some.inj hbody
          exact absurd hbodyField hfield
        | succ i =>
          refine ⟨i, ⟨hbody, hbodyField, fun j hj child hchild => ?_⟩, ?_⟩
          · exact hfirst (j + 1) (Nat.succ_lt_succ hj) child hchild
          · rw [List.take_succ_cons, List.reverse_cons, List.append_assoc]
            rfl

theorem findBody?_of_bodyAt {nodes : List Node} {i : Nat} {body : Node} (h : BodyAt nodes i body) :
    findBody? [] nodes = some ((nodes.take i).reverse, body) :=
  findBody?_eq_some_iff.mpr ⟨i, h, (List.append_nil _).symm⟩

theorem length_before {nodes : List Node} {i : Nat} {node : Node} (h : nodes[i]? = some node) :
    (nodes.take i).reverse.length = i := by
  obtain ⟨hlt, -⟩ := List.getElem?_eq_some_iff.mp h
  rw [List.length_reverse, List.length_take]
  omega

theorem mem_amongVisits_nil {address : List Nat} {frames : List Frame} {owner : Option Owner} {nodes : List Node}
    {u : Visit} :
    u ∈ amongVisits address frames owner [] nodes ↔
      ∃ i node, nodes[i]? = some node ∧ node.named = true ∧ u = .toPart address frames owner nodes i node := by
  rw [mem_amongVisits]
  simp only [List.length_nil, Nat.zero_add, List.append_nil]
  rfl

theorem mem_functionVisits {address : List Nat} {frames : List Frame} {nodes : List Node} {u : Visit} :
    u ∈ functionVisits address frames nodes ↔
      ∃ i body, BodyAt nodes i body ∧ u = .toPart address frames none nodes i body := by
  rw [functionVisits]
  constructor
  · intro h
    split at h
    · exact absurd h List.not_mem_nil
    · rename_i before body hbody
      obtain ⟨i, hat, rfl⟩ := findBody?_eq_some_iff.mp hbody
      refine ⟨i, body, hat, ?_⟩
      rw [List.mem_singleton.mp h, List.append_nil, length_before hat.1]
      rfl
  · rintro ⟨i, body, hat, rfl⟩
    rw [findBody?_of_bodyAt hat]
    dsimp only
    rw [length_before hat.1]
    exact List.mem_singleton.mpr rfl

theorem mem_bodyVisits {address : List Nat} {frames : List Frame} {owner : Option Owner} {nodes : List Node}
    {u : Visit} :
    u ∈ bodyVisits address frames owner nodes ↔
      ∃ i body j node, BodyAt nodes i body ∧ body.children[j]? = some node ∧ node.named = true ∧
        u = .toPart (address ++ [i]) frames owner body.children j node := by
  rw [bodyVisits]
  constructor
  · intro h
    split at h
    · exact absurd h List.not_mem_nil
    · rename_i before body hbody
      obtain ⟨i, hat, rfl⟩ := findBody?_eq_some_iff.mp hbody
      obtain ⟨j, node, hpart, hnamed, rfl⟩ := mem_amongVisits_nil.mp h
      refine ⟨i, body, j, node, hat, hpart, hnamed, ?_⟩
      rw [List.append_nil, length_before hat.1]
  · rintro ⟨i, body, j, node, hat, hpart, hnamed, rfl⟩
    rw [findBody?_of_bodyAt hat]
    dsimp only
    rw [length_before hat.1]
    exact mem_amongVisits_nil.mpr ⟨j, node, hpart, hnamed, rfl⟩

section

variable {closed : List Kind} {source : Source} {v : Visit}

theorem partVisits_of_function (kind : v.node.kind = .functionItem) :
    partVisits closed source v =
      match enterable? source v.node with
      | none => []
      | some name => functionVisits v.address (v.frames ++ [⟨.function, name⟩]) v.node.children := by
  simp only [partVisits, kind]

theorem partVisits_of_module (kind : v.node.kind = .modItem) :
    partVisits closed source v =
      match moduleName? source v.node with
      | none => []
      | some name => bodyVisits v.address (v.frames ++ [⟨.module, name⟩]) none v.node.children := by
  simp only [partVisits, kind]

theorem partVisits_of_owner (kind : v.node.kind ∈ [Kind.implItem, .traitItem]) :
    partVisits closed source v =
      bodyVisits v.address (v.frames ++ [⟨.owner, (Owner.ofItem source v.node).name⟩])
        (some (Owner.ofItem source v.node)) v.node.children := by
  rw [List.mem_cons, List.mem_singleton] at kind
  rcases kind with kind | kind
  · simp only [partVisits, kind]
  · simp only [partVisits, kind]

theorem partVisits_of_plain (plain : v.node.kind ∉ itemKinds) :
    partVisits closed source v =
      if v.node.kind ∈ closed then [] else amongVisits v.address v.frames none [] v.node.children := by
  simp only [itemKinds, List.mem_cons, List.not_mem_nil, or_false, not_or] at plain
  obtain ⟨hfunction, hmodule, himpl, htrait⟩ := plain
  rw [partVisits]
  split
  · exact absurd ‹_› hfunction
  · exact absurd ‹_› hmodule
  · exact absurd ‹_› himpl
  · exact absurd ‹_› htrait
  · rfl

end

/-- An item is a function, a module, or the owner of methods. -/
theorem mem_itemKinds {kind : Kind} :
    kind ∈ itemKinds ↔ kind = .functionItem ∨ kind = .modItem ∨ kind ∈ [Kind.implItem, .traitItem] := by
  simp [itemKinds]

/-- The list of parts holds exactly what one step leads to. -/
theorem mem_partVisits {closed : List Kind} {source : Source} {v u : Visit} :
    u ∈ partVisits closed source v ↔ Passes closed source v u := by
  constructor
  · intro h
    by_cases item : v.node.kind ∈ itemKinds
    · rcases mem_itemKinds.mp item with kind | kind | kind
      · rw [partVisits_of_function kind] at h
        split at h
        · exact absurd h List.not_mem_nil
        · rename_i name sound
          obtain ⟨i, body, bodyAt, rfl⟩ := mem_functionVisits.mp h
          exact .function kind sound bodyAt
      · rw [partVisits_of_module kind] at h
        split at h
        · exact absurd h List.not_mem_nil
        · rename_i name sound
          obtain ⟨i, body, j, node, bodyAt, part, named, rfl⟩ := mem_bodyVisits.mp h
          exact .module kind sound bodyAt part named
      · rw [partVisits_of_owner kind] at h
        obtain ⟨i, body, j, node, bodyAt, part, named, rfl⟩ := mem_bodyVisits.mp h
        exact .member kind bodyAt part named
    · rw [partVisits_of_plain item] at h
      split at h
      · exact absurd h List.not_mem_nil
      · rename_i looked
        obtain ⟨i, node, part, named, rfl⟩ := mem_amongVisits_nil.mp h
        exact .through item looked part named
  · intro h
    cases h with
    | function kind sound bodyAt =>
      rw [partVisits_of_function kind, sound]
      exact mem_functionVisits.mpr ⟨_, _, bodyAt, rfl⟩
    | module kind sound bodyAt part named =>
      rw [partVisits_of_module kind, sound]
      exact mem_bodyVisits.mpr ⟨_, _, _, _, bodyAt, part, named, rfl⟩
    | member kind bodyAt part named =>
      rw [partVisits_of_owner kind]
      exact mem_bodyVisits.mpr ⟨_, _, _, _, bodyAt, part, named, rfl⟩
    | through plain looked part named =>
      rw [partVisits_of_plain plain, if_neg looked]
      exact mem_amongVisits_nil.mpr ⟨_, _, part, named, rfl⟩

/-! ### The whole walk -/

theorem sizeOf_part {node part : Node} {i : Nat} (h : node.children[i]? = some part) : sizeOf part < sizeOf node := by
  obtain ⟨kind, start, stop, field, named, missing, children⟩ := node
  have hmem : part ∈ children := List.mem_of_getElem? h
  have hlt := List.sizeOf_lt_of_mem hmem
  rw [Node.mk.sizeOf_spec]
  omega

theorem Passes.sizeOf_lt {closed : List Kind} {source : Source} {v u : Visit} (h : Passes closed source v u) :
    sizeOf u.node < sizeOf v.node := by
  cases h with
  | function _ _ bodyAt => exact sizeOf_part bodyAt.1
  | module _ _ bodyAt part _ => exact (sizeOf_part part).trans (sizeOf_part bodyAt.1)
  | member _ bodyAt part _ => exact (sizeOf_part part).trans (sizeOf_part bodyAt.1)
  | through _ _ part _ => exact sizeOf_part part

/-- A visit and all visits below it, in the order of the text. -/
def visits (closed : List Kind) (source : Source) (v : Visit) : List Visit :=
  v :: (partVisits closed source v).attach.flatMap fun u => visits closed source u.1
termination_by sizeOf v.node
decreasing_by exact (mem_partVisits.mp u.2).sizeOf_lt

theorem visits_eq (closed : List Kind) (source : Source) (v : Visit) :
    visits closed source v = v :: (partVisits closed source v).flatMap (visits closed source) := by
  rw [visits, List.flatMap_subtype fun _ _ => rfl, List.unattach_attach]

/-- The visits of a walk from a root. -/
def walk (closed : List Kind) (source : Source) (root : Node) : List Visit :=
  (amongVisits [] [] none [] root.children).flatMap (visits closed source)

section

variable {closed : List Kind} {source : Source}

/-- To prove something of a visit, it may be assumed of the visits one step below. -/
theorem visit_induction (closed : List Kind) (source : Source) {motive : Visit → Prop}
    (step : ∀ v, (∀ u ∈ partVisits closed source v, motive u) → motive v) (v : Visit) : motive v := by
  induction hsize : sizeOf v.node using Nat.strongRecOn generalizing v with
  | ind n ih =>
    refine step v fun u hu => ih (sizeOf u.node) ?_ u rfl
    rw [← hsize]
    exact (mem_partVisits.mp hu).sizeOf_lt

/-- The visits are exactly those that steps lead to. -/
theorem mem_visits_iff {v w : Visit} : w ∈ visits closed source v ↔ ReflTransGen (Passes closed source) v w := by
  induction v using visit_induction closed source with
  | step v ih =>
    -- Both sides say: the visit itself, or something below a visit one step further.
    rw [visits_eq, List.mem_cons, List.mem_flatMap, ReflTransGen.cases_head_iff, eq_comm]
    refine or_congr_right (exists_congr fun u => ?_)
    rw [mem_partVisits]
    exact and_congr_right fun hu => ih u (mem_partVisits.mpr hu)

theorem mem_walk_iff {root : Node} {v : Visit} : v ∈ walk closed source root ↔ Reached closed source root v := by
  rw [walk, List.mem_flatMap]
  simp only [mem_amongVisits_nil, mem_visits_iff]
  constructor
  · rintro ⟨u, ⟨i, top, htop, hnamed, rfl⟩, hsteps⟩
    exact ⟨i, top, htop, hnamed, hsteps⟩
  · rintro ⟨i, top, htop, hnamed, hsteps⟩
    exact ⟨_, ⟨i, top, htop, hnamed, rfl⟩, hsteps⟩

end

/-! ### What is collected along a walk

A function that collects something from a tree is written as a recursion over nodes, over rows of siblings and over
the parts of an item. The equations of these recursions tell how it is collected from the visits. -/

section

variable {β : Type} {found : Visit → List β} {address : List Nat} {frames : List Frame} {owner : Option Owner}

theorem eq_flatMap_amongVisits (among : List Node → List Node → List β) (hnil : ∀ before, among before [] = [])
    (hcons : ∀ before node rest, among before (node :: rest) =
      (if node.named then found ⟨address ++ [before.length], frames, owner, before, node⟩ else []) ++
        among (node :: before) rest)
    (before nodes : List Node) :
    among before nodes = (amongVisits address frames owner before nodes).flatMap found := by
  induction nodes generalizing before with
  | nil => exact hnil before
  | cons node rest ih =>
    rw [hcons, amongVisits, List.flatMap_append, ih]
    congr 1
    split
    · rw [List.flatMap_singleton]
    · rfl

theorem eq_flatMap_functionVisits (inFunction : List Node → List Node → List β)
    (hnil : ∀ before, inFunction before [] = [])
    (hcons : ∀ before node rest, inFunction before (node :: rest) =
      if node.field == some "body" then found ⟨address ++ [before.length], frames, none, before, node⟩
      else inFunction (node :: before) rest)
    (nodes : List Node) : inFunction [] nodes = (functionVisits address frames nodes).flatMap found := by
  -- The recursion stops at the first body, with the siblings before it; for the induction these are arbitrary.
  have hfind : ∀ before, inFunction before nodes =
      (findBody? before nodes).elim [] fun (before, body) =>
        found ⟨address ++ [before.length], frames, none, before, body⟩ := by
    induction nodes with
    | nil => exact hnil
    | cons node rest ih =>
      intro before
      rw [hcons, findBody?]
      split
      · rfl
      · exact ih (node :: before)
  rw [hfind [], functionVisits]
  cases findBody? [] nodes with
  | none => rfl
  | some body => exact (List.flatMap_singleton ..).symm

theorem eq_flatMap_bodyVisits {among inBody : List Node → List β} (hnil : inBody [] = [])
    (hcons : ∀ node rest, inBody (node :: rest) =
      if node.field == some "body" then among node.children else inBody rest)
    (hamong : ∀ address nodes, among nodes = (amongVisits address frames owner [] nodes).flatMap found)
    (nodes : List Node) : inBody nodes = (bodyVisits address frames owner nodes).flatMap found := by
  have hfind : ∀ before, inBody nodes = (findBody? before nodes).elim [] fun (_, body) => among body.children := by
    induction nodes with
    | nil => exact fun _ => hnil
    | cons node rest ih =>
      intro before
      rw [hcons, findBody?]
      split
      · rfl
      · exact ih (node :: before)
  rw [hfind [], bodyVisits]
  cases findBody? [] nodes with
  | none => rfl
  | some body => exact hamong ..

end

/-- What is collected at some visits only. -/
theorem flatMap_ite_nil {α β : Type} (p : α → Prop) [DecidablePred p] (f : α → List β) (items : List α) :
    (items.flatMap fun item => if p item then f item else []) = (items.filter p).flatMap f := by
  induction items with
  | nil => rfl
  | cons item rest ih =>
    rw [List.flatMap_cons, ih, List.filter_cons]
    by_cases h : p item
    · rw [if_pos h, if_pos (decide_eq_true h), List.flatMap_cons]
    · rw [if_neg h, if_neg (by simpa using h), List.nil_append]

section

variable {closed : List Kind} {source : Source}

/-- What is computed at every visit from the visit itself and the visits one step below is collected along the
walk. -/
theorem gather {β : Type} {found here : Visit → List β}
    (hstep : ∀ v, found v = here v ++ (partVisits closed source v).flatMap found) (v : Visit) :
    found v = (visits closed source v).flatMap here := by
  induction v using visit_induction closed source with
  | step v ih =>
    have hparts : (partVisits closed source v).flatMap found =
        (partVisits closed source v).flatMap fun u => (visits closed source u).flatMap here :=
      List.flatMap_congr ih
    rw [hstep, hparts, visits_eq, List.flatMap_cons, List.flatMap_assoc]

/-! ### The order of the text -/

theorem Passes.extends {v u : Visit} (h : Passes closed source v u) : ∃ i, v.address ++ [i] <+: u.address := by
  cases h with
  | @function _ i _ _ _ _ => exact ⟨i, List.prefix_rfl⟩
  | @module _ i j _ _ _ _ _ _ _ => exact ⟨i, List.prefix_append _ _⟩
  | @member i j _ _ _ _ _ _ => exact ⟨i, List.prefix_append _ _⟩
  | @through i _ _ _ _ _ => exact ⟨i, List.prefix_rfl⟩

theorem prefix_of_steps {v w : Visit} (h : ReflTransGen (Passes closed source) v w) : v.address <+: w.address := by
  induction h with
  | refl => exact List.prefix_rfl
  | tail _ hstep ih =>
    obtain ⟨i, hextends⟩ := hstep.extends
    exact ih.trans ((List.prefix_append _ _).trans hextends)

theorem pairwise_amongVisits (address : List Nat) (frames : List Frame) (owner : Option Owner)
    (before nodes : List Node) : (amongVisits address frames owner before nodes).Pairwise Visit.Precedes := by
  induction nodes generalizing before with
  | nil => exact List.Pairwise.nil
  | cons node rest ih =>
    rw [amongVisits, List.pairwise_append]
    refine ⟨?_, ih (node :: before), fun u hu w hw => ?_⟩
    · split
      · exact List.pairwise_singleton _ _
      · exact List.Pairwise.nil
    · split at hu
      · obtain rfl := List.mem_singleton.mp hu
        obtain ⟨i, part, -, -, rfl⟩ := mem_amongVisits.mp hw
        refine ⟨address, before.length, (node :: before).length + i, ?_, List.prefix_rfl, List.prefix_rfl⟩
        rw [List.length_cons]
        omega
      · exact absurd hu List.not_mem_nil

theorem pairwise_functionVisits (address : List Nat) (frames : List Frame) (nodes : List Node) :
    (functionVisits address frames nodes).Pairwise Visit.Precedes := by
  rw [functionVisits]
  split
  · exact List.Pairwise.nil
  · exact List.pairwise_singleton _ _

theorem pairwise_bodyVisits (address : List Nat) (frames : List Frame) (owner : Option Owner) (nodes : List Node) :
    (bodyVisits address frames owner nodes).Pairwise Visit.Precedes := by
  rw [bodyVisits]
  split
  · exact List.Pairwise.nil
  · exact pairwise_amongVisits ..

theorem pairwise_partVisits (closed : List Kind) (source : Source) (v : Visit) :
    (partVisits closed source v).Pairwise Visit.Precedes := by
  rw [partVisits]
  split
  · split
    · exact List.Pairwise.nil
    · exact pairwise_functionVisits ..
  · split
    · exact List.Pairwise.nil
    · exact pairwise_bodyVisits ..
  · exact pairwise_bodyVisits ..
  · exact pairwise_bodyVisits ..
  · split
    · exact List.Pairwise.nil
    · exact pairwise_amongVisits ..

/-- If visits part, then all that lies below them comes in their order. -/
theorem pairwise_flatMap_visits {tops : List Visit} (hparted : tops.Pairwise Visit.Precedes)
    (hbelow : ∀ u ∈ tops, (visits closed source u).Pairwise Visit.Before) :
    (tops.flatMap (visits closed source)).Pairwise Visit.Before := by
  refine List.pairwise_flatMap.mpr ⟨hbelow, hparted.imp fun hprecedes x hx y hy => ?_⟩
  have hx := prefix_of_steps (mem_visits_iff.mp hx)
  have hy := prefix_of_steps (mem_visits_iff.mp hy)
  exact (hprecedes.extend hx hy).before

theorem pairwise_visits (v : Visit) : (visits closed source v).Pairwise Visit.Before := by
  induction v using visit_induction closed source with
  | step v ih =>
    rw [visits_eq, List.pairwise_cons]
    -- What lies below has a longer address, so it comes after the visit itself.
    refine ⟨fun w hw => ?_, pairwise_flatMap_visits (pairwise_partVisits closed source v) ih⟩
    obtain ⟨u, hu, hw⟩ := List.mem_flatMap.mp hw
    obtain ⟨i, hextends⟩ := (mem_partVisits.mp hu).extends
    exact Visit.before_of_prefix (hextends.trans (prefix_of_steps (mem_visits_iff.mp hw)))

/-- A walk meets the nodes in the order of the text, each once. -/
theorem pairwise_walk (closed : List Kind) (source : Source) (root : Node) :
    (walk closed source root).Pairwise Visit.Before :=
  pairwise_flatMap_visits (pairwise_amongVisits ..) fun u _ => pairwise_visits u

end

end Deadwood
