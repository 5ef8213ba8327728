/-
The nodes of a syntax tree in the order of the text, and the syntax errors among them.

`Node.preorder` lists a node before its parts and earlier parts before later ones.  The main
statements are

* **`hasError_iff`** — a tree has an error exactly if one of its nodes is a fault;
* **`searchFault?_eq_find?`** — a search from a stack of nodes finds the first fault in their lists, one after the
  other, although it does not look into nodes without an error;
* **`first_fault_in_order`** — hence the fault that messages speak of is the first one of a tree;
* **`mem_preorder_of_mem_walk`** — a walk meets only nodes of the tree, so a tree without a fault
  shows none to it.

Nodes and rows of nodes are defined together, and so are the proofs about them: one theorem for a
node and one for a row, each an induction step of the other.
-/
import Deadwood.Proofs.Walk

namespace Deadwood

namespace Syntax.Node

mutual

/-- A node and all nodes below it, in the order of the text. -/
def preorder : Node → List Node
  | node@(mk _ _ _ _ _ _ children) => node :: preorderAmong children

def preorderAmong : List Node → List Node
  | [] => []
  | node :: rest => node.preorder ++ preorderAmong rest

end

/-- The nodes below a node. -/
def descendants (node : Node) : List Node :=
  preorderAmong node.children

theorem preorder_eq (node : Node) : node.preorder = node :: node.descendants := by
  cases node
  rw [preorder]
  rfl

theorem mem_preorder_self (node : Node) : node ∈ node.preorder := by
  rw [preorder_eq]
  exact List.mem_cons_self

theorem mem_preorder_of_mem_descendants {node part : Node} (h : part ∈ node.descendants) : part ∈ node.preorder := by
  rw [preorder_eq]
  exact List.mem_cons_of_mem _ h

theorem mem_preorderAmong {nodes : List Node} {x : Node} :
    x ∈ preorderAmong nodes ↔ ∃ node ∈ nodes, x ∈ node.preorder := by
  induction nodes with
  | nil => simp [preorderAmong]
  | cons node rest ih => simp [preorderAmong, ih]

theorem mem_descendants_of_mem_children {node part x : Node} (hpart : part ∈ node.children) (hx : x ∈ part.preorder) :
    x ∈ node.descendants :=
  mem_preorderAmong.mpr ⟨part, hpart, hx⟩

mutual

theorem mem_preorder_trans {x y : Node} (hx : x ∈ y.preorder) : ∀ z : Node, y ∈ z.preorder → x ∈ z.preorder
  | mk kind start stop field named missing children, hy => by
    rw [preorder] at hy
    rcases List.mem_cons.mp hy with rfl | hy
    · exact hx
    · rw [preorder]
      exact List.mem_cons_of_mem _ (mem_preorderAmong_trans hx children hy)

theorem mem_preorderAmong_trans {x y : Node} (hx : x ∈ y.preorder) :
    ∀ nodes : List Node, y ∈ preorderAmong nodes → x ∈ preorderAmong nodes
  | [], hy => by
    rw [preorderAmong] at hy
    exact absurd hy List.not_mem_nil
  | node :: rest, hy => by
    rw [preorderAmong] at hy ⊢
    rcases List.mem_append.mp hy with hy | hy
    · exact List.mem_append_left _ (mem_preorder_trans hx node hy)
    · exact List.mem_append_right _ (mem_preorderAmong_trans hx rest hy)

end

/-! ### Faults -/

mutual

theorem hasError_eq_any : ∀ node : Node, node.hasError = node.preorder.any isFault
  | mk kind start stop field named missing children => by
    rw [hasError, preorder, List.any_cons, anyError_eq_any children]

theorem anyError_eq_any : ∀ nodes : List Node, anyError nodes = (preorderAmong nodes).any isFault
  | [] => by
    rw [anyError, preorderAmong]
    rfl
  | node :: rest => by
    rw [anyError, preorderAmong, List.any_append, hasError_eq_any node, anyError_eq_any rest]

end

theorem hasError_iff {node : Node} : node.hasError = true ↔ ∃ fault ∈ node.preorder, fault.isFault = true := by
  rw [hasError_eq_any, List.any_eq_true]

/-- An error in a part is an error in the whole. -/
theorem hasError_of_mem {node part : Node} (hpart : part ∈ node.preorder) (h : part.hasError = true) :
    node.hasError = true := by
  obtain ⟨fault, hfault, hmarks⟩ := hasError_iff.mp h
  exact hasError_iff.mpr ⟨fault, mem_preorder_trans hfault node hpart, hmarks⟩

/-! ### The search for the first fault

What a stack has still to be searched for is `preorderAmong stack`, the part of the tree in front of which no fault was
found.  A step of the search takes a node off that list, or a node with all that is below it, and never a fault. -/

theorem preorderAmong_append (nodes more : List Node) :
    preorderAmong (nodes ++ more) = preorderAmong nodes ++ preorderAmong more := by
  induction nodes with
  | nil => rfl
  | cons node rest ih => rw [List.cons_append, preorderAmong, preorderAmong, ih, List.append_assoc]

theorem find?_cons_of_not_isFault {node : Node} (hnode : node.isFault = false) (rest : List Node) :
    (preorderAmong (node :: rest)).find? isFault =
      (preorderAmong (pushAll rest node.children.reverse)).find? isFault := by
  -- The parts are pushed from the last to the first, so they come in their order, before what was there.
  have hparts : preorderAmong (pushAll rest node.children.reverse) = node.descendants ++ preorderAmong rest := by
    rw [pushAll_reverse, preorderAmong_append, descendants]
  rw [preorderAmong, preorder_eq, List.cons_append, List.find?_cons, hnode, hparts]

theorem find?_preorder_eq_none_iff {node : Node} : node.preorder.find? isFault = none ↔ node.hasError = false := by
  rw [List.find?_eq_none, hasError_eq_any, List.any_eq_false]

theorem find?_cons_of_not_hasError {node : Node} (hnode : node.hasError = false) (rest : List Node) :
    (preorderAmong (node :: rest)).find? isFault = (preorderAmong rest).find? isFault := by
  rw [preorderAmong, List.find?_append, find?_preorder_eq_none_iff.mpr hnode, Option.none_or]

theorem searchFault?_eq_find? (stack : List Node) : searchFault? stack = (preorderAmong stack).find? isFault := by
  fun_induction searchFault? stack with
  | case1 => rfl
  | case2 node rest hfault => rw [preorderAmong, preorder_eq, List.cons_append, List.find?_cons, hfault]
  | case3 node rest hfault herror ih =>
    rw [ih, find?_cons_of_not_isFault (by simpa using hfault)]
  | case4 node rest hfault herror ih =>
    rw [ih, find?_cons_of_not_hasError (by simpa using herror)]

theorem firstFault?_eq_find? (node : Node) : node.firstFault? = node.preorder.find? isFault := by
  have hsearch : searchFault? [node] = node.preorder.find? isFault := by
    rw [searchFault?_eq_find?, preorderAmong, preorderAmong, List.append_nil]
  rw [firstFault?, hsearch]
  cases hnone : node.hasError with
  | true => rfl
  | false => exact (find?_preorder_eq_none_iff.mpr hnone).symm

mutual

/-- The first fault of a tree by plain recursion, without a stack and without cutting anything off. -/
def plainFault? : Node → Option Node
  | node@(mk _ _ _ _ _ _ children) => if node.isFault then some node else plainFaultAmong? children

def plainFaultAmong? : List Node → Option Node
  | [] => none
  | node :: rest => node.plainFault?.or (plainFaultAmong? rest)

end

mutual

theorem plainFault?_eq_find? : ∀ node : Node, node.plainFault? = node.preorder.find? isFault
  | mk kind start stop field named missing children => by
    rw [plainFault?, preorder, List.find?_cons, plainFaultAmong?_eq_find? children]
    cases isFault (mk kind start stop field named missing children) <;> rfl

theorem plainFaultAmong?_eq_find? : ∀ nodes : List Node, plainFaultAmong? nodes = (preorderAmong nodes).find? isFault
  | [] => rfl
  | node :: rest => by
    rw [plainFaultAmong?, preorderAmong, List.find?_append, plainFault?_eq_find? node, plainFaultAmong?_eq_find? rest]

end

theorem isFault_iff {node : Node} : node.isFault = true ↔ node.kind = .error ∨ node.missing = true := by
  rw [isFault, Bool.or_eq_true, beq_iff_eq]

theorem anyError_iff {nodes : List Node} : anyError nodes = true ↔ ∃ node ∈ nodes, node.hasError = true := by
  induction nodes with
  | nil => simp [anyError]
  | cons node rest ih => rw [anyError, Bool.or_eq_true, ih, List.exists_mem_cons_iff]

theorem hasError_iff_parts {node : Node} : node.hasError = true ↔
    (node.kind = .error ∨ node.missing = true) ∨ ∃ part ∈ node.children, part.hasError = true := by
  cases node
  rw [hasError, Bool.or_eq_true, isFault_iff, anyError_iff, children]

/-- **The fault that messages speak of is the first one.**  A node has an error if it is a fault or one of its parts has
an error.  Then, and only then, the search from a stack finds a fault; it is the one before which there is none in the
order of the text, and the one that plain recursion finds. -/
theorem first_fault_in_order (node : Node) :
    (node.hasError = true ↔
      (node.kind = .error ∨ node.missing = true) ∨ ∃ part ∈ node.children, part.hasError = true) ∧
    (node.firstFault? = none ↔ node.hasError = false) ∧
    (∀ fault, node.firstFault? = some fault ↔ ∃ before after, node.preorder = before ++ fault :: after ∧
      (fault.kind = .error ∨ fault.missing = true) ∧
      ∀ earlier ∈ before, ¬ (earlier.kind = .error ∨ earlier.missing = true)) ∧
    node.firstFault? = node.plainFault? := by
  refine ⟨hasError_iff_parts, ?_, fun fault => ?_, ?_⟩
  · rw [firstFault?_eq_find?, find?_preorder_eq_none_iff]
  · rw [firstFault?_eq_find?, List.find?_eq_some_iff_append]
    simp only [← isFault_iff]
    constructor
    · rintro ⟨hfault, before, after, hsplit, hbefore⟩
      exact ⟨before, after, hsplit, hfault, fun earlier hearlier => by simpa using hbefore earlier hearlier⟩
    · rintro ⟨before, after, hsplit, hfault, hbefore⟩
      exact ⟨hfault, before, after, hsplit, fun earlier hearlier => by simpa using hbefore earlier hearlier⟩
  · rw [firstFault?_eq_find?, plainFault?_eq_find?]

end Syntax.Node

/-! ### Walks stay in their tree -/

open Syntax
open Relation (ReflTransGen)

variable {closed : List Kind} {source : Source}

theorem Passes.mem_descendants {v u : Visit} (h : Passes closed source v u) : u.node ∈ v.node.descendants := by
  cases h with
  | @function name i body _ _ bodyAt =>
    exact Node.mem_descendants_of_mem_children (List.mem_of_getElem? bodyAt.1) (Node.mem_preorder_self _)
  | @module name i j body node _ _ bodyAt part _ =>
    refine Node.mem_descendants_of_mem_children (List.mem_of_getElem? bodyAt.1) (Node.mem_preorder_of_mem_descendants ?_)
    exact Node.mem_descendants_of_mem_children (List.mem_of_getElem? part) (Node.mem_preorder_self _)
  | @member i j body node _ bodyAt part _ =>
    refine Node.mem_descendants_of_mem_children (List.mem_of_getElem? bodyAt.1) (Node.mem_preorder_of_mem_descendants ?_)
    exact Node.mem_descendants_of_mem_children (List.mem_of_getElem? part) (Node.mem_preorder_self _)
  | @through i node _ _ part _ =>
    exact Node.mem_descendants_of_mem_children (List.mem_of_getElem? part) (Node.mem_preorder_self _)

theorem mem_preorder_of_mem_visits {v w : Visit} (h : w ∈ visits closed source v) : w.node ∈ v.node.preorder := by
  have hsteps := mem_visits_iff.mp h
  induction hsteps with
  | refl => exact Node.mem_preorder_self _
  | tail _ hstep ih =>
    exact Node.mem_preorder_trans (Node.mem_preorder_of_mem_descendants hstep.mem_descendants) _ (ih (mem_visits_iff.mpr ‹_›))

theorem mem_preorder_of_mem_walk {root : Node} {v : Visit} (h : v ∈ walk closed source root) :
    v.node ∈ root.preorder := by
  obtain ⟨top, htop, hv⟩ := List.mem_flatMap.mp h
  obtain ⟨i, node, hnode, -, rfl⟩ := mem_amongVisits_nil.mp htop
  refine Node.mem_preorder_of_mem_descendants (Node.mem_descendants_of_mem_children (List.mem_of_getElem? hnode) ?_)
  exact mem_preorder_of_mem_visits hv

end Deadwood
