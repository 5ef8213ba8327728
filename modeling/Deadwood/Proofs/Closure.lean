/-
What the depth-first walk of a graph collects.

`closure next unseen pending` takes a node out of `unseen` when it is first met.
The main statements are

* `mem_closure_iff` — it collects exactly the ends of paths that start at a
  pending node and stay in `unseen`;
* `mem_closure_iff_of_closed` — if no step leads out of `unseen`, these are all
  paths;
* `nodup_closure` — no node is collected twice.

The induction is that of the walk itself.  Its one idea is in `path_avoiding`: a
path that meets the node just taken out can be cut after its last visit there.
-/
import Deadwood.Graph.Digraph
import Mathlib.Data.List.Dedup
import Mathlib.Logic.Relation

namespace Deadwood

/-- The rest of a list is filtered before it is visited, so an induction goes to what the filter leaves. -/
theorem eraseDups_induct {α : Type} [DecidableEq α] {P : List α → List α → Prop} (nil : P [] [])
    (cons : ∀ item rest, P (rest.filter fun x => !x == item) (rest.filter fun x => !x == item).eraseDups →
      P (item :: rest) (item :: (rest.filter fun x => !x == item).eraseDups)) (items : List α) :
    P items items.eraseDups := by
  induction hlen : items.length using Nat.strongRecOn generalizing items with
  | ind n ih =>
    cases items with
    | nil => exact nil
    | cons item rest =>
      have hshorter : (rest.filter fun x => !x == item).length < n := by
        have hle := List.length_filter_le (fun x => !x == item) rest
        rw [List.length_cons] at hlen
        omega
      rw [List.eraseDups_cons]
      exact cons item rest (ih _ hshorter _ rfl)

theorem nodup_eraseDups {α : Type} [DecidableEq α] (items : List α) : items.eraseDups.Nodup := by
  refine eraseDups_induct (P := fun _ left => left.Nodup) List.nodup_nil (fun item rest ih => ?_) items
  refine List.nodup_cons.mpr ⟨fun hin => ?_, ih⟩
  rw [List.mem_eraseDups, List.mem_filter] at hin
  simp at hin

theorem eraseDups_sublist {α : Type} [DecidableEq α] (items : List α) : items.eraseDups.Sublist items :=
  eraseDups_induct (P := fun items left => left.Sublist items) (List.Sublist.refl _)
    (fun item _ ih => (ih.trans List.filter_sublist).cons_cons item) items

end Deadwood

namespace Deadwood.Graph

variable {α : Type} {next : α → List α}

/-- One step along an edge, to a node of a given list. -/
def StepIn (next : α → List α) (unseen : List α) (a b : α) : Prop :=
  b ∈ next a ∧ b ∈ unseen

/-- A path from one of the starts to a node; all its nodes are in the given list. -/
def ReachedIn (next : α → List α) (unseen starts : List α) (node : α) : Prop :=
  ∃ start ∈ starts, start ∈ unseen ∧ Relation.ReflTransGen (StepIn next unseen) start node

theorem ReachedIn.mono {unseen unseen' starts : List α} {node : α} (hsub : unseen ⊆ unseen')
    (h : ReachedIn next unseen starts node) : ReachedIn next unseen' starts node := by
  obtain ⟨start, hs, hu, hpath⟩ := h
  have hstep : StepIn next unseen ≤ StepIn next unseen' := by
    rintro a b ⟨hab, hb⟩
    exact ⟨hab, hsub hb⟩
  exact ⟨start, hs, hsub hu, Relation.ReflTransGen.mono hstep _ _ hpath⟩

variable [DecidableEq α]

/-- A path is either at the node that leaves the list, or it can be cut after its last visit to that node. -/
theorem path_avoiding {unseen rest : List α} {node x : α} (h : ReachedIn next unseen (node :: rest) x) :
    x = node ∨ ReachedIn next (unseen.erase node) (next node ++ rest) x := by
  obtain ⟨start, hs, hu, hpath⟩ := h
  induction hpath with
  | refl =>
    by_cases heq : start = node
    · exact Or.inl heq
    · have hrest : start ∈ rest := (List.mem_cons.mp hs).resolve_left heq
      have herase : start ∈ unseen.erase node := (List.mem_erase_of_ne heq).mpr hu
      exact Or.inr ⟨start, List.mem_append_right _ hrest, herase, .refl⟩
  | @tail y z _ hstep ih =>
    obtain ⟨hyz, hz⟩ := hstep
    by_cases heq : z = node
    · exact Or.inl heq
    have herase : z ∈ unseen.erase node := (List.mem_erase_of_ne heq).mpr hz
    rcases ih with rfl | ⟨start', hs', hu', hpath'⟩
    · exact Or.inr ⟨z, List.mem_append_left _ hyz, herase, .refl⟩
    · exact Or.inr ⟨start', hs', hu', hpath'.tail ⟨hyz, herase⟩⟩

/-- Taking a pending node out and making its neighbours pending adds no new path. -/
theorem path_through {unseen rest : List α} {node x : α} (hnode : node ∈ unseen)
    (h : ReachedIn next (unseen.erase node) (next node ++ rest) x) :
    ReachedIn next unseen (node :: rest) x := by
  obtain ⟨start, hs, hu, hpath⟩ := h.mono List.erase_subset
  rcases List.mem_append.mp hs with hnext | hrest
  · exact ⟨node, List.mem_cons_self, hnode, hpath.head ⟨hnext, hu⟩⟩
  · exact ⟨start, List.mem_cons_of_mem _ hrest, hu, hpath⟩

/-- The walk collects exactly what paths within the unseen nodes reach from the pending ones. -/
theorem mem_closure_iff (next : α → List α) (unseen pending : List α) (x : α) :
    x ∈ closure next unseen pending ↔ ReachedIn next unseen pending x := by
  fun_induction closure next unseen pending with
  | case1 unseen =>
    constructor
    · intro h
      exact absurd h (List.not_mem_nil)
    · rintro ⟨start, hs, -⟩
      exact absurd hs (List.not_mem_nil)
  | case2 unseen node rest hmem ih =>
    rw [List.mem_cons, ih]
    constructor
    · rintro (rfl | h)
      · exact ⟨x, List.mem_cons_self, hmem, .refl⟩
      · exact path_through hmem h
    · exact path_avoiding
  | case3 unseen node rest hmem ih =>
    rw [ih]
    constructor
    · rintro ⟨start, hs, hrest⟩
      exact ⟨start, List.mem_cons_of_mem _ hs, hrest⟩
    · rintro ⟨start, hs, hu, hpath⟩
      -- The node was met before, so no path in the unseen nodes begins there.
      have hne : start ≠ node := fun heq => hmem (heq ▸ hu)
      exact ⟨start, (List.mem_cons.mp hs).resolve_left hne, hu, hpath⟩

theorem mem_of_mem_closure {unseen pending : List α} {x : α} (h : x ∈ closure next unseen pending) :
    x ∈ unseen := by
  obtain ⟨start, -, hu, hpath⟩ := (mem_closure_iff next unseen pending x).mp h
  rcases hpath.cases_tail with rfl | ⟨y, -, -, hx⟩
  · exact hu
  · exact hx

/-- A walk among all nodes that a step can lead to collects everything that can be reached. -/
theorem mem_closure_iff_of_closed {unseen pending : List α} (hclosed : ∀ a, ∀ b ∈ next a, b ∈ unseen) (x : α) :
    x ∈ closure next unseen pending ↔
      ∃ start ∈ pending, start ∈ unseen ∧ Relation.ReflTransGen (fun a b => b ∈ next a) start x := by
  have hstep : StepIn next unseen = fun a b => b ∈ next a := by
    funext a b
    exact propext ⟨fun h => h.1, fun h => ⟨h, hclosed a b h⟩⟩
  rw [mem_closure_iff, ReachedIn, hstep]

/-- No node is collected twice. -/
theorem nodup_closure {unseen : List α} (hnodup : unseen.Nodup) (pending : List α) :
    (closure next unseen pending).Nodup := by
  fun_induction closure next unseen pending with
  | case1 => exact List.nodup_nil
  | case2 unseen node rest hmem ih =>
    -- What is collected later is still unseen, and the node no longer is.
    refine List.nodup_cons.mpr ⟨fun hin => ?_, ih (hnodup.erase node)⟩
    exact hnodup.not_mem_erase (mem_of_mem_closure hin)
  | case3 unseen node rest hmem ih => exact ih hnodup

end Deadwood.Graph

namespace Deadwood.Digraph

variable {α : Type} [DecidableEq α]

theorem mem_adjoin {item x : α} {items : List α} : x ∈ adjoin item items ↔ x ∈ items ∨ x = item := by
  rw [adjoin]
  by_cases h : item ∈ items
  · rw [if_pos h]
    exact ⟨Or.inl, fun hx => hx.elim id fun heq => heq ▸ h⟩
  · rw [if_neg h, List.mem_append, List.mem_singleton]

theorem nodup_adjoin {item : α} {items : List α} (h : items.Nodup) : (adjoin item items).Nodup := by
  rw [adjoin]
  by_cases hmem : item ∈ items
  · rwa [if_pos hmem]
  · rw [if_neg hmem, ← List.concat_eq_append]
    exact List.Nodup.concat hmem h

theorem mem_foldl_adjoin {x : α} {new items : List α} :
    x ∈ new.foldl (fun items item => adjoin item items) items ↔ x ∈ items ∨ x ∈ new := by
  induction new generalizing items with
  | nil => simp
  | cons item rest ih =>
    rw [List.foldl_cons, ih, mem_adjoin, List.mem_cons, or_assoc]

theorem nodup_foldl_adjoin {new items : List α} (h : items.Nodup) :
    (new.foldl (fun items item => adjoin item items) items).Nodup := by
  induction new generalizing items with
  | nil => exact h
  | cons item rest ih => exact ih (nodup_adjoin h)

theorem mem_neighbors {graph : Digraph α} {a b : α} : b ∈ graph.neighbors a ↔ (a, b) ∈ graph.edges := by
  simp [neighbors]

theorem mem_domain {graph : Digraph α} {x : α} :
    x ∈ graph.domain ↔ x ∈ graph.nodes ∨ ∃ edge ∈ graph.edges, x = edge.1 ∨ x = edge.2 := by
  simp [domain]

end Deadwood.Digraph
