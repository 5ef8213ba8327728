/-
Walks through a graph that is given by the neighbours of each node.

A node is passed over when it is met again, so cycles and repeated edges end by
themselves. Each walk is told the nodes that can be met, its domain.

* `closure` collects what can be reached.
* `explore` visits nodes breadth first. A node gets an entry in a table when it is
  first met, and the entry says how: its predecessor, or its distance.
* `walkBack` follows predecessors from a node to where the search for it began, and
  `trace?` is the search and the way back.
-/
import Deadwood.OrderedMap

namespace Deadwood.Graph

variable {α β : Type} [DecidableEq α]

/-- The unseen nodes that can be reached from the pending ones, in the order of a depth-first walk. -/
def closure (next : α → List α) (unseen pending : List α) : List α :=
  match pending with
  | [] => []
  | node :: rest =>
    if node ∈ unseen then node :: closure next (unseen.erase node) (next node ++ rest)
    else closure next unseen rest
termination_by (unseen.length, pending.length)
decreasing_by
  · rename_i member
    apply Prod.Lex.left
    have := List.length_erase_of_mem member
    have := List.length_pos_of_mem member
    omega
  · apply Prod.Lex.right
    simp

/-! ### Breadth first -/

/-- The nodes of a domain that have no entry. -/
def missing (domain : List α) (table : OrderedMap α β) : List α :=
  domain.filter fun node => (table.get? node).isNone

/-- Meets the given nodes one after the other: the table, in which those that had no entry have the given one, and
these nodes. -/
def enter (domain : List α) (value : β) (table : OrderedMap α β) : List α → OrderedMap α β × List α
  | [] => (table, [])
  | node :: rest =>
    if node ∈ domain ∧ !table.contains node then
      let (table, met) := enter domain value (table.insert node value) rest
      (table, node :: met)
    else enter domain value table rest

theorem length_missing_insert {domain : List α} {table : OrderedMap α β} {node : α} (inDomain : node ∈ domain)
    (unmet : !table.contains node) (value : β) :
    (missing domain (table.insert node value)).length < (missing domain table).length := by
  have unentered : table.get? node = none := by
    rwa [OrderedMap.contains_eq_isSome, Option.not_isSome, Option.isNone_iff_eq_none] at unmet
  have fewer : missing domain (table.insert node value) = (missing domain table).filter (· ≠ node) := by
    rw [missing, missing, List.filter_filter]
    refine List.filter_congr fun other _ => ?_
    rw [OrderedMap.get?_insert]
    split <;> simp [*]
  rw [fewer, List.length_filter_lt_length_iff_exists]
  exact ⟨node, List.mem_filter.mpr ⟨inDomain, by simp [unentered]⟩, by simp⟩

theorem length_enter (domain : List α) (value : β) (table : OrderedMap α β) (nodes : List α) :
    (missing domain (enter domain value table nodes).1).length + (enter domain value table nodes).2.length ≤
      (missing domain table).length := by
  induction nodes generalizing table with
  | nil => exact Nat.le_refl _
  | cons node rest ih =>
    rw [enter]
    split
    · rename_i new
      have fewer := length_missing_insert new.1 new.2 value
      have later := ih (table.insert node value)
      simp only [List.length_cons]
      omega
    · exact ih table

/-- Visits the nodes of a queue, breadth first, until one of them is to be stopped at: the table then, and that node.
The neighbours that are met for the first time are entered with what the table gives for the visited node. -/
def explore (domain : List α) (next : α → List α) (value : OrderedMap α β → α → β) (stop : α → Bool)
    (table : OrderedMap α β) (queue : List α) : OrderedMap α β × Option α :=
  match queue with
  | [] => (table, none)
  | node :: rest =>
    if stop node then (table, some node)
    else
      let met := enter domain (value table node) table (next node)
      explore domain next value stop met.1 (rest ++ met.2)
termination_by 2 * (missing domain table).length + queue.length
decreasing_by
  have := length_enter domain (value table node) table (next node)
  simp only [List.length_append, List.length_cons]
  omega

/-- Follows predecessors until there is none, or one that passes for none, and puts the nodes on the way in front of a
chain. There is no result if a node has no entry, or if the way is not at its end after the given number of nodes. -/
def walkBack (isNone : α → Bool) (before : OrderedMap α (Option α)) : Nat → List α → Option α → Option (List α)
  | _, chain, none => some chain
  | steps, chain, some node =>
    if isNone node then some chain
    else
      match steps with
      | 0 => none
      | steps + 1 => (before.get? node).bind (walkBack isNone before steps (node :: chain))

/-- Searches from the starts for a node to be stopped at, and follows its predecessors back. -/
def trace? (domain : List α) (next : α → List α) (stop isNone : α → Bool) (starts : List α) : Option (List α) :=
  let entered := enter domain none {} starts
  let (before, found) := explore domain next (fun _ node => some node) stop entered.1 entered.2
  found.bind fun node => walkBack isNone before before.entries.length [] (some node)

end Deadwood.Graph
