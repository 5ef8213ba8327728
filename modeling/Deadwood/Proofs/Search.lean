/-
What the breadth-first search of a graph meets, and in which order.

`explore` enters each node in a table when it is first met.  Beside it stands a search that keeps
no table and carries the path to each node along (`sweep`).  The main statements are

* **`trail_of_mem_sweep`** — a node is visited with a path of edges that leads to it from a start;
* **`exists_mem_sweep_iff`** — the visited nodes are those to which a path leads from a queued node
  through nodes that are still unseen;
* **`Mirrors.visit`** — a visit keeps the table in step with the paths: the entry of a node says how
  the path to it ends;
* **`explore_stop`** — so the search stops at the first visit that it is to stop at, and the path of
  that visit can be read off the table;
* **`get?_explore`** — a search that does not stop leaves an entry for each node that it visits, and
  for no other.

The search and the depth-first walk remove nodes in a different order.  What they have in
common is that a path can be cut after its last visit to a node that was just met
(`path_after_discover`).
-/
import Deadwood.Proofs.Closure

namespace Deadwood.Graph

open Relation (ReflTransGen)

variable {α β : Type} [DecidableEq α] {next : α → List α} {unseen nodes path starts : List α}

/-! ### Meeting several nodes -/

/-- Meets the given nodes one after the other: the nodes that stay unseen, and those met for the first time, each
with the path that led to it (nearest node first). -/
def discover (path unseen : List α) : List α → List α × List (α × List α)
  | [] => (unseen, [])
  | node :: rest =>
    if node ∈ unseen then
      let (unseen, found) := discover path (unseen.erase node) rest
      (unseen, (node, path) :: found)
    else discover path unseen rest

theorem length_discover (path unseen nodes : List α) :
    (discover path unseen nodes).1.length + (discover path unseen nodes).2.length = unseen.length := by
  induction nodes generalizing unseen with
  | nil => rfl
  | cons node rest ih =>
    by_cases hnode : node ∈ unseen
    · have herased := ih (unseen.erase node)
      have hlength := List.length_erase_of_mem hnode
      have hpos := List.length_pos_of_mem hnode
      simp only [discover, hnode, if_true, List.length_cons]
      omega
    · simpa only [discover, hnode, if_false] using ih unseen

theorem discover_sublist (path unseen nodes : List α) : (discover path unseen nodes).1.Sublist unseen := by
  induction nodes generalizing unseen with
  | nil => exact List.Sublist.refl _
  | cons node rest ih =>
    rw [discover]
    split
    · exact (ih (unseen.erase node)).trans List.erase_sublist
    · exact ih unseen

/-- What stays unseen was not met. -/
theorem mem_unseen_discover (hnodup : unseen.Nodup) {x : α} :
    x ∈ (discover path unseen nodes).1 ↔ x ∈ unseen ∧ x ∉ nodes := by
  induction nodes generalizing unseen with
  | nil => simp [discover]
  | cons node rest ih =>
    rw [discover]
    split
    · rw [ih (hnodup.erase node), hnodup.mem_erase_iff, List.mem_cons, not_or]
      constructor
      · rintro ⟨⟨hne, hx⟩, hrest⟩
        exact ⟨hx, hne, hrest⟩
      · rintro ⟨hx, hne, hrest⟩
        exact ⟨⟨hne, hx⟩, hrest⟩
    · rename_i hnode
      rw [ih hnodup, List.mem_cons, not_or]
      constructor
      · rintro ⟨hx, hrest⟩
        exact ⟨hx, fun heq => hnode (heq ▸ hx), hrest⟩
      · rintro ⟨hx, -, hrest⟩
        exact ⟨hx, hrest⟩

/-- What is met is queued with the path that led to it. -/
theorem mem_found_discover {entry : α × List α} :
    entry ∈ (discover path unseen nodes).2 ↔ entry.2 = path ∧ entry.1 ∈ nodes ∧ entry.1 ∈ unseen := by
  induction nodes generalizing unseen with
  | nil => simp [discover]
  | cons node rest ih =>
    obtain ⟨x, trail⟩ := entry
    rw [discover]
    split
    · rename_i hnode
      rw [List.mem_cons, ih, Prod.mk.injEq]
      dsimp only
      constructor
      · rintro (⟨rfl, rfl⟩ | ⟨rfl, hx, hunseen⟩)
        · exact ⟨rfl, List.mem_cons_self, hnode⟩
        · exact ⟨rfl, List.mem_cons_of_mem _ hx, List.mem_of_mem_erase hunseen⟩
      · rintro ⟨rfl, hx, hunseen⟩
        by_cases heq : x = node
        · exact Or.inl ⟨heq, rfl⟩
        · exact Or.inr ⟨rfl, (List.mem_cons.mp hx).resolve_left heq, (List.mem_erase_of_ne heq).mpr hunseen⟩
    · rename_i hnode
      rw [ih]
      dsimp only
      constructor
      · rintro ⟨rfl, hx, hunseen⟩
        exact ⟨rfl, List.mem_cons_of_mem _ hx, hunseen⟩
      · rintro ⟨rfl, hx, hunseen⟩
        have hne : x ≠ node := fun heq => hnode (heq ▸ hunseen)
        exact ⟨rfl, (List.mem_cons.mp hx).resolve_left hne, hunseen⟩

/-- A path either avoids the nodes that were met, or it can be cut after its last visit to one of them. -/
theorem path_after_discover (hnodup : unseen.Nodup) (path nodes : List α) {a x : α}
    (h : ReflTransGen (StepIn next unseen) a x) :
    (∃ entry ∈ (discover path unseen nodes).2,
      ReflTransGen (StepIn next (discover path unseen nodes).1) entry.1 x) ∨
      ReflTransGen (StepIn next (discover path unseen nodes).1) a x := by
  induction h with
  | refl => exact Or.inr .refl
  | @tail y z _ hstep ih =>
    obtain ⟨hyz, hz⟩ := hstep
    by_cases hmet : z ∈ nodes
    · exact Or.inl ⟨(z, path), mem_found_discover.mpr ⟨rfl, hmet, hz⟩, .refl⟩
    · have hleft : z ∈ (discover path unseen nodes).1 := (mem_unseen_discover hnodup).mpr ⟨hz, hmet⟩
      rcases ih with ⟨entry, hentry, hpath⟩ | hpath
      · exact Or.inl ⟨entry, hentry, hpath.tail ⟨hyz, hleft⟩⟩
      · exact Or.inr (hpath.tail ⟨hyz, hleft⟩)

/-- With fewer nodes unseen there are fewer paths. -/
theorem path_before_discover (path nodes : List α) {a x : α}
    (h : ReflTransGen (StepIn next (discover path unseen nodes).1) a x) : ReflTransGen (StepIn next unseen) a x := by
  refine Relation.ReflTransGen.mono ?_ _ _ h
  rintro y z ⟨hyz, hz⟩
  exact ⟨hyz, (discover_sublist path unseen nodes).subset hz⟩

/-! ### The visited nodes -/

/-- The visits of a breadth-first search: each node of the queue, with the path that led to it, and then what is met
from there. -/
def sweep (next : α → List α) (unseen : List α) (queue : List (α × List α)) : List (α × List α) :=
  match queue with
  | [] => []
  | (node, path) :: rest =>
    let met := discover (node :: path) unseen (next node)
    (node, path) :: sweep next met.1 (rest ++ met.2)
termination_by 2 * unseen.length + queue.length
decreasing_by
  have := length_discover (node :: path) unseen (next node)
  simp only [List.length_append, List.length_cons]
  omega

/-- A path of edges that begins at a start, with its nodes listed from the last one on. -/
def Trail (next : α → List α) (starts nodes : List α) : Prop :=
  nodes.IsChain (fun a b => a ∈ next b) ∧ ∃ start ∈ starts, nodes.getLast? = some start

theorem mem_sweep_of_mem {queue : List (α × List α)} {entry : α × List α} (h : entry ∈ queue) :
    entry ∈ sweep next unseen queue := by
  fun_induction sweep next unseen queue with
  | case1 => exact h
  | case2 unseen node path rest met ih =>
    rcases List.mem_cons.mp h with rfl | hrest
    · exact List.mem_cons_self
    · exact List.mem_cons_of_mem _ (ih (List.mem_append_left _ hrest))

/-- Whatever the queued nodes have and a visit hands on to what it meets, all visited nodes have. -/
theorem sweep_induct {P : List α → α × List α → Prop}
    (hleft : ∀ unseen path nodes entry, P unseen entry → P (discover path unseen nodes).1 entry)
    (hmet : ∀ unseen node path, unseen.Nodup → P unseen (node, path) →
      ∀ entry ∈ (discover (node :: path) unseen (next node)).2,
        P (discover (node :: path) unseen (next node)).1 entry)
    {queue : List (α × List α)} (hnodup : unseen.Nodup) (hqueue : ∀ entry ∈ queue, P unseen entry) :
    ∀ entry ∈ sweep next unseen queue, ∃ left, P left entry := by
  fun_induction sweep next unseen queue with
  | case1 => exact fun entry hentry => absurd hentry List.not_mem_nil
  | case2 unseen node path rest met ih =>
    intro entry hentry
    rcases List.mem_cons.mp hentry with rfl | hrest
    · exact ⟨unseen, hqueue _ List.mem_cons_self⟩
    · refine ih (hnodup.sublist (discover_sublist _ _ _)) (fun entry hentry => ?_) entry hrest
      rcases List.mem_append.mp hentry with hold | hnew
      · exact hleft _ _ _ entry (hqueue entry (List.mem_cons_of_mem _ hold))
      · exact hmet _ _ _ hnodup (hqueue _ List.mem_cons_self) entry hnew

/-- A node is visited with a path that goes on from a queued one. -/
theorem trail_of_mem_sweep {queue : List (α × List α)} (hnodup : unseen.Nodup)
    (hqueue : ∀ entry ∈ queue, Trail next starts (entry.1 :: entry.2)) {entry : α × List α}
    (h : entry ∈ sweep next unseen queue) : Trail next starts (entry.1 :: entry.2) := by
  have hvisits := sweep_induct (P := fun _ entry => Trail next starts (entry.1 :: entry.2))
    (fun _ _ _ _ htrail => htrail) (fun unseen node path _ htrail entry hnew => ?_) hnodup hqueue entry h
  · exact hvisits.choose_spec
  · -- A node that was just met prolongs the path of the node that is visited.
    obtain ⟨hpath, hnext, -⟩ := mem_found_discover.mp hnew
    obtain ⟨hchain, start, hstart, hlast⟩ := htrail
    rw [hpath]
    refine ⟨List.isChain_cons_cons.mpr ⟨hnext, hchain⟩, start, hstart, ?_⟩
    rwa [List.getLast?_cons_cons]

/-- A node is visited exactly if a path leads there from a queued node through unseen ones. -/
theorem exists_mem_sweep_iff (hnodup : unseen.Nodup) {target : α} {queue : List (α × List α)} :
    (∃ path, (target, path) ∈ sweep next unseen queue) ↔
      ∃ entry ∈ queue, ReflTransGen (StepIn next unseen) entry.1 target := by
  fun_induction sweep next unseen queue with
  | case1 => simp
  | case2 unseen node path rest met ih =>
    have hlater := ih (hnodup.sublist (discover_sublist _ _ _))
    constructor
    · rintro ⟨trail, htrail⟩
      rcases List.mem_cons.mp htrail with heq | htrail
      · obtain ⟨rfl, -⟩ := Prod.mk.inj heq
        exact ⟨_, List.mem_cons_self, .refl⟩
      obtain ⟨entry, hentry, hpath⟩ := hlater.mp ⟨trail, htrail⟩
      rcases List.mem_append.mp hentry with hold | hnew
      · exact ⟨entry, List.mem_cons_of_mem _ hold, path_before_discover _ _ hpath⟩
      · obtain ⟨-, hnext, hunseen⟩ := mem_found_discover.mp hnew
        exact ⟨_, List.mem_cons_self, (path_before_discover _ _ hpath).head ⟨hnext, hunseen⟩⟩
    · rintro ⟨entry, hentry, hpath⟩
      by_cases heq : target = node
      · exact ⟨path, List.mem_cons.mpr (Or.inl (by rw [heq]))⟩
      have hgoes : ∃ entry ∈ rest ++ met.2, ReflTransGen (StepIn next met.1) entry.1 target := by
        rcases path_after_discover hnodup (node :: path) (next node) hpath with ⟨new, hnew, hrest⟩ | hrest
        · exact ⟨new, List.mem_append_right _ hnew, hrest⟩
        rcases List.mem_cons.mp hentry with rfl | hold
        · -- A path from the node itself would begin with a neighbour, and all of them have been met.
          rcases hrest.cases_head with hsame | ⟨y, ⟨hnext, hy⟩, -⟩
          · exact absurd hsame.symm heq
          · exact absurd hnext ((mem_unseen_discover hnodup).mp hy).2
        · exact ⟨entry, List.mem_append_left _ hold, hrest⟩
      obtain ⟨trail, htrail⟩ := hlater.mpr hgoes
      exact ⟨trail, List.mem_cons_of_mem _ htrail⟩

/-! ### The table of the search -/

/-- The table has an entry for each node of a path, with the last node first: what a function makes of the nodes
before it. -/
def Recorded (shape : List α → β) (table : OrderedMap α β) : List α → Prop
  | [] => True
  | node :: path => table.get? node = some (shape path) ∧ Recorded shape table path

/-- The nodes without an entry are the unseen ones, and the paths of the queued nodes are recorded. -/
structure Mirrors (domain : List α) (shape : List α → β) (table : OrderedMap α β) (unseen : List α)
    (queue : List (α × List α)) : Prop where
  unmet : ∀ x, x ∈ unseen ↔ x ∈ domain ∧ table.get? x = none
  recorded : ∀ entry ∈ queue, Recorded shape table (entry.1 :: entry.2)

section Table

variable {domain : List α} {shape : List α → β} {table : OrderedMap α β} {value : OrderedMap α β → α → β}
  {stop : α → Bool} {queue : List (α × List α)}

/-- Nodes are entered in the order in which they are met. -/
theorem enter_eq_discover (hnodup : unseen.Nodup) (hunmet : ∀ x, x ∈ unseen ↔ x ∈ domain ∧ table.get? x = none)
    (v : β) (path nodes : List α) :
    (enter domain v table nodes).2 = (discover path unseen nodes).2.map (·.1) ∧
      ∀ x, (enter domain v table nodes).1.get? x =
        if x ∈ (enter domain v table nodes).2 then some v else table.get? x := by
  induction nodes generalizing table unseen with
  | nil => exact ⟨rfl, fun x => (if_neg List.not_mem_nil).symm⟩
  | cons node rest ih =>
    have hmet : (node ∈ domain ∧ !table.contains node) ↔ node ∈ unseen := by
      rw [hunmet, OrderedMap.contains_eq_isSome, Option.not_isSome, Option.isNone_iff_eq_none]
    rw [enter, discover]
    by_cases hnode : node ∈ unseen
    · rw [if_pos (hmet.mpr hnode), if_pos hnode]
      have hleft : ∀ x, x ∈ unseen.erase node ↔ x ∈ domain ∧ (table.insert node v).get? x = none := by
        intro x
        rw [hnodup.mem_erase_iff, hunmet, OrderedMap.get?_insert]
        by_cases hx : x = node <;> simp [hx]
      obtain ⟨hnew, hget⟩ := ih (hnodup.erase node) hleft
      refine ⟨congrArg (node :: ·) hnew, fun x => ?_⟩
      show (enter domain v (table.insert node v) rest).1.get? x =
        if x ∈ node :: (enter domain v (table.insert node v) rest).2 then some v else table.get? x
      rw [hget, OrderedMap.get?_insert]
      by_cases hx : x = node <;> simp [hx]
    · rw [if_neg (hmet.not.mpr hnode), if_neg hnode]
      exact ih hnodup hunmet

theorem Recorded.mono {table' : OrderedMap α β} (hkept : ∀ x v, table.get? x = some v → table'.get? x = some v)
    {path : List α} (h : Recorded shape table path) : Recorded shape table' path := by
  induction path with
  | nil => trivial
  | cons node path ih => exact ⟨hkept _ _ h.1, ih h.2⟩

theorem Recorded.subset_keys {path : List α} (h : Recorded shape table path) : path ⊆ table.keys := by
  induction path with
  | nil => exact List.nil_subset _
  | cons node path ih =>
    have hnode : node ∈ table.keys := OrderedMap.mem_keys_iff.mpr (by rw [h.1]; rfl)
    exact List.cons_subset.mpr ⟨hnode, ih h.2⟩

/-- Each node is entered once. -/
theorem nodup_keys_enter (h : table.keys.Nodup) (v : β) (nodes : List α) :
    (enter domain v table nodes).1.keys.Nodup := by
  induction nodes generalizing table with
  | nil => exact h
  | cons node rest ih =>
    rw [enter]
    split
    · exact ih (OrderedMap.nodup_keys_insert h node v)
    · exact ih h

theorem nodup_keys_explore (h : table.keys.Nodup) (nodes : List α) :
    (explore domain next value stop table nodes).1.keys.Nodup := by
  fun_induction explore domain next value stop table nodes with
  | case1 => exact h
  | case2 => exact h
  | case3 table node rest hgoes met ih => exact ih (nodup_keys_enter h _ _)

section Visit

variable {node : α} {rest : List (α × List α)} {v : β}

theorem Mirrors.mem_enter_iff (hnodup : unseen.Nodup) (h : Mirrors domain shape table unseen queue) {x : α} :
    x ∈ (enter domain v table nodes).2 ↔ x ∈ nodes ∧ x ∈ unseen := by
  rw [(enter_eq_discover hnodup h.unmet v [] nodes).1, List.mem_map]
  constructor
  · rintro ⟨entry, hentry, rfl⟩
    exact (mem_found_discover.mp hentry).2
  · intro hx
    exact ⟨(x, []), mem_found_discover.mpr ⟨rfl, hx⟩, rfl⟩

/-- An entry is not changed, since its node is not unseen. -/
theorem Mirrors.get?_enter_of_some (hnodup : unseen.Nodup) (h : Mirrors domain shape table unseen queue) {x : α} {w : β}
    (hx : table.get? x = some w) : (enter domain v table nodes).1.get? x = some w := by
  have hseen : x ∉ (enter domain v table nodes).2 := by
    rw [h.mem_enter_iff hnodup, h.unmet, hx]
    simp
  rw [(enter_eq_discover hnodup h.unmet v [] nodes).2, if_neg hseen, hx]

/-- A visit keeps the table in step with the paths. -/
theorem Mirrors.visit (hnodup : unseen.Nodup) (nodes : List α)
    (h : Mirrors domain shape table unseen ((node, path) :: rest)) (hv : v = shape (node :: path)) :
    (enter domain v table nodes).2 = (discover (node :: path) unseen nodes).2.map (·.1) ∧
      Mirrors domain shape (enter domain v table nodes).1 (discover (node :: path) unseen nodes).1
        (rest ++ (discover (node :: path) unseen nodes).2) := by
  obtain ⟨hnew, hget⟩ := enter_eq_discover hnodup h.unmet v (node :: path) nodes
  refine ⟨hnew, fun x => ?_, fun entry hentry => ?_⟩
  · rw [mem_unseen_discover hnodup, hget]
    by_cases hx : x ∈ (enter domain v table nodes).2
    · simp [hx, (h.mem_enter_iff hnodup).mp hx]
    · rw [if_neg hx, ← h.unmet]
      exact and_iff_left_of_imp fun hunseen hin => hx ((h.mem_enter_iff hnodup).mpr ⟨hin, hunseen⟩)
  · rcases List.mem_append.mp hentry with hold | hfound
    · exact (h.recorded entry (List.mem_cons_of_mem _ hold)).mono fun x w => h.get?_enter_of_some hnodup
    · obtain ⟨hpath, hin⟩ := mem_found_discover.mp hfound
      rw [hpath]
      refine ⟨?_, (h.recorded _ List.mem_cons_self).mono fun x w => h.get?_enter_of_some hnodup⟩
      rw [hget, if_pos ((h.mem_enter_iff hnodup).mpr hin), hv]

end Visit

variable (hvalue : ∀ (table : OrderedMap α β) node path,
  table.get? node = some (shape path) → value table node = shape (node :: path))
include hvalue

/-- The search stops at the first visit that it is to stop at, and the path of that visit is recorded. -/
theorem explore_stop (hnodup : unseen.Nodup) (h : Mirrors domain shape table unseen queue) (next : α → List α)
    (stop : α → Bool) :
    (explore domain next value stop table (queue.map (·.1))).2 =
        ((sweep next unseen queue).find? fun entry => stop entry.1).map (·.1) ∧
      ∀ entry, ((sweep next unseen queue).find? fun entry => stop entry.1) = some entry →
        Recorded shape (explore domain next value stop table (queue.map (·.1))).1 (entry.1 :: entry.2) := by
  fun_induction sweep next unseen queue generalizing table with
  | case1 => exact ⟨by simp [explore], fun entry hentry => absurd hentry (by simp)⟩
  | case2 unseen node path rest met =>
    rename_i ih
    rw [List.map_cons, explore, List.find?_cons]
    by_cases hstop : stop node = true
    · simp only [hstop, if_true]
      refine ⟨rfl, fun entry hentry => ?_⟩
      obtain rfl := Option.some.inj hentry
      exact h.recorded _ List.mem_cons_self
    · simp only [hstop]
      have hnode := h.recorded _ List.mem_cons_self
      obtain ⟨hnew, hmirrors⟩ := h.visit hnodup (next node) (hvalue table node path hnode.1)
      have hlater := ih (hnodup.sublist (discover_sublist _ _ _)) hmirrors
      rwa [List.map_append, ← hnew] at hlater

/-- A search that does not stop records how the nodes were met that it visits, and nothing else. -/
theorem get?_explore (hnodup : unseen.Nodup) (h : Mirrors domain shape table unseen queue) {x : α} {v : β} :
    (explore domain next value (fun _ => false) table (queue.map (·.1))).1.get? x = some v ↔
      table.get? x = some v ∨ ∃ path, (x, path) ∈ sweep next unseen queue ∧ v = shape path := by
  fun_induction sweep next unseen queue generalizing table with
  | case1 => simp [explore]
  | case2 unseen node path rest met =>
    rename_i ih
    have hnode := h.recorded _ List.mem_cons_self
    obtain ⟨hnew, hmirrors⟩ := h.visit hnodup (next node) (hvalue table node path hnode.1)
    have hlater := ih (hnodup.sublist (discover_sublist _ _ _)) hmirrors
    rw [List.map_append, ← hnew] at hlater
    rw [List.map_cons, explore, if_neg Bool.false_ne_true]
    refine hlater.trans ⟨?_, ?_⟩
    · rintro (hget | ⟨trail, htrail, hv⟩)
      · rw [(enter_eq_discover hnodup h.unmet _ (node :: path) (next node)).2] at hget
        split at hget
        · rename_i hx
          refine Or.inr ⟨node :: path, List.mem_cons_of_mem _ (mem_sweep_of_mem (List.mem_append_right _ ?_)), ?_⟩
          · exact mem_found_discover.mpr ⟨rfl, (h.mem_enter_iff hnodup).mp hx⟩
          · rw [← Option.some.inj hget, hvalue table node path hnode.1]
        · exact Or.inl hget
      · exact Or.inr ⟨trail, List.mem_cons_of_mem _ htrail, hv⟩
    · rintro (hget | ⟨trail, htrail, hv⟩)
      · exact Or.inl (h.get?_enter_of_some hnodup hget)
      · rcases List.mem_cons.mp htrail with heq | htrail
        · obtain ⟨rfl, rfl⟩ := Prod.mk.inj heq
          exact Or.inl (h.get?_enter_of_some hnodup (hv ▸ hnode.1))
        · exact Or.inr ⟨trail, htrail, hv⟩

end Table

end Deadwood.Graph
