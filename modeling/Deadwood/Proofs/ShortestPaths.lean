/-
The breadth-first search finds a shortest path.

A queued node stands there with the path that led to it, so its distance is the length of
that path.  The main statements are

* **`Layered.visit`** — the queue is sorted by distance, and its distances differ by at most
  one; a visit keeps that;
* **`Ahead.visit`** — for every path to the target there is a queued node from which the rest of
  a path no longer than it leads on through unseen nodes; a visit keeps that too;
* **`length_le_of_find?`** — so when the target comes first in the queue, no path is shorter than
  the one that led to it;
* **`Fresh.visit`** — no node repeats on the path of a queued node, since a node is met only once;
* **`Starting.distance`** — hence the path of the first visit of a node has as many steps as the node
  is away from the starts;
* **`walkBack_of_recorded`** — the predecessors in the table lead back along that path;
* **`explain?_cuts_shortest`** — hence what a graph gives as the explanation of a target.

The argument for `Ahead.visit` is that of `path_after_discover`, with the number of steps kept:
a path that meets a neighbour of the visited node is cut after the last one it meets.  What was
before the cut had at least one step more than the path to the visited node, because that one was
first in the queue.
-/
import Deadwood.Proofs.Reachability
import Deadwood.Proofs.Search
import Mathlib.Data.List.Chain
import Mathlib.Data.List.Perm.Subperm
import Mathlib.Data.List.TakeWhile

namespace Deadwood

/-! ### Counted steps -/

namespace Steps

variable {β : Type} {r : β → β → Prop} {n : Nat} {a b c : β}

theorem imp {r' : β → β → Prop} (himp : ∀ a b, r a b → r' a b) (h : Steps r n a b) : Steps r' n a b := by
  induction h with
  | zero a => exact .zero a
  | succ _ last ih => exact ih.succ (himp _ _ last)

theorem cons (first : r a b) (h : Steps r n b c) : Steps r (n + 1) a c := by
  induction h with
  | zero => exact (Steps.zero a).succ first
  | succ _ last ih => exact (ih first).succ last

theorem eq_or_first (h : Steps r n a b) : a = b ∨ ∃ x, r a x := by
  induction h with
  | zero => exact Or.inl rfl
  | succ _ last ih =>
    rcases ih with rfl | hfirst
    · exact Or.inr ⟨_, last⟩
    · exact Or.inr hfirst

theorem reflTransGen (h : Steps r n a b) : Relation.ReflTransGen r a b := by
  induction h with
  | zero => exact .refl
  | succ _ last ih => exact ih.tail last

/-- A chain has one step less than it has members. -/
theorem of_chain {rest : List β} (hchain : (a :: rest).IsChain r) (hlast : (a :: rest).getLast? = some b) :
    Steps r rest.length a b := by
  induction rest generalizing a with
  | nil =>
    obtain rfl := Option.some.inj hlast
    exact .zero a
  | cons x rest ih =>
    obtain ⟨hfirst, hrest⟩ := List.isChain_cons_cons.mp hchain
    rw [List.getLast?_cons_cons] at hlast
    exact (ih hrest hlast).cons hfirst

end Steps

/-! ### Distances -/

/-- The least number of steps to a node from one of some starts. -/
structure Distance {β : Type} (r : β → β → Prop) (starts : List β) (x : β) (n : Nat) : Prop where
  path : ∃ start ∈ starts, Steps r n start x
  least : ∀ start ∈ starts, ∀ k, Steps r k start x → n ≤ k

section Distances

variable {β : Type} {r : β → β → Prop} {starts : List β} {x : β} {m n : Nat}

theorem Distance.congr {starts' : List β} (h : Distance r starts x n) (hsame : ∀ a, a ∈ starts' ↔ a ∈ starts) :
    Distance r starts' x n := by
  obtain ⟨start, hstart, hsteps⟩ := h.path
  refine ⟨⟨start, (hsame start).mpr hstart, hsteps⟩, fun a ha k hk => ?_⟩
  exact h.least a ((hsame a).mp ha) k hk

theorem Distance.unique (h : Distance r starts x m) (h' : Distance r starts x n) : m = n := by
  obtain ⟨start, hstart, hsteps⟩ := h.path
  obtain ⟨start', hstart', hsteps'⟩ := h'.path
  exact Nat.le_antisymm (h.least start' hstart' n hsteps') (h'.least start hstart m hsteps)

theorem distance_zero (hx : x ∈ starts) : Distance r starts x 0 :=
  ⟨⟨x, hx, .zero x⟩, fun _ _ k _ => Nat.zero_le k⟩

/-- Steps visit a chain of nodes, one more than there are steps. -/
theorem Steps.exists_chain {a b : β} (h : Steps r n a b) :
    ∃ nodes : List β, nodes.head? = some a ∧ nodes.IsChain r ∧ nodes.getLast? = some b ∧ nodes.length = n + 1 := by
  induction h with
  | zero a => exact ⟨[a], rfl, .singleton a, rfl, rfl⟩
  | @succ n a b c front last ih =>
    obtain ⟨nodes, hhead, hchain, hlast, hlength⟩ := ih
    have hne : nodes ≠ [] := by
      rintro rfl
      exact absurd hhead (by simp)
    refine ⟨nodes ++ [c], ?_, ?_, List.getLast?_concat, ?_⟩
    · rw [List.head?_append_of_ne_nil _ hne, hhead]
    · refine List.isChain_append.mpr ⟨hchain, .singleton c, fun y hy z hz => ?_⟩
      obtain rfl : b = y := Option.some.inj (hlast.symm.trans hy)
      obtain rfl : c = z := Option.some.inj hz
      exact last
    · rw [List.length_append, hlength]
      rfl

end Distances

namespace Graph

variable {α : Type} {next : α → List α} {unseen path starts : List α} {node target : α}
  {rest queue : List (α × List α)}

/-! ### Distances in the queue -/

/-- A queue that is sorted by distance and has at most two distances next to each other. -/
structure Layered (queue : List (α × List α)) : Prop where
  sorted : queue.Pairwise fun a b => a.2.length ≤ b.2.length
  close : ∀ a ∈ queue, ∀ b ∈ queue, b.2.length ≤ a.2.length + 1

theorem Layered.head_le (h : Layered ((node, path) :: rest)) : ∀ entry ∈ (node, path) :: rest,
    path.length ≤ entry.2.length := by
  intro entry hentry
  rcases List.mem_cons.mp hentry with rfl | hrest
  · exact Nat.le_refl _
  · exact (List.pairwise_cons.mp h.sorted).1 entry hrest

/-- New entries that are one step further than the first one may be queued in its place. -/
theorem Layered.visit (h : Layered ((node, path) :: rest)) {found : List (α × List α)}
    (hfound : ∀ entry ∈ found, entry.2.length = path.length + 1) : Layered (rest ++ found) := by
  have hfirst : ∀ entry ∈ rest, path.length ≤ entry.2.length ∧ entry.2.length ≤ path.length + 1 := by
    intro entry hentry
    have hmem : entry ∈ (node, path) :: rest := List.mem_cons_of_mem _ hentry
    exact ⟨h.head_le entry hmem, h.close _ List.mem_cons_self entry hmem⟩
  constructor
  · refine List.pairwise_append.mpr ⟨(List.pairwise_cons.mp h.sorted).2, ?_, fun a ha b hb => ?_⟩
    · refine List.pairwise_of_forall_mem_list fun a ha b hb => ?_
      rw [hfound a ha, hfound b hb]
    · rw [hfound b hb]
      exact (hfirst a ha).2
  · intro a ha b hb
    -- Whichever part they come from, both distances are that of the first entry or one more.
    have hbounds : ∀ entry ∈ rest ++ found, path.length ≤ entry.2.length ∧ entry.2.length ≤ path.length + 1 := by
      intro entry hentry
      rcases List.mem_append.mp hentry with hrest | hnew
      · exact hfirst entry hrest
      · rw [hfound entry hnew]
        omega
    have ha := hbounds a ha
    have hb := hbounds b hb
    omega

/-! ### The way ahead -/

/-- From some queued node a path leads to the target through unseen nodes, and with the path that led to the queued
node it has at most the given number of steps. -/
def Ahead (next : α → List α) (unseen : List α) (queue : List (α × List α)) (target : α) (steps : Nat) : Prop :=
  ∃ entry ∈ queue, ∃ k, Steps (StepIn next unseen) k entry.1 target ∧ entry.2.length + k ≤ steps

variable [DecidableEq α]

/-- A path either avoids the nodes that were met, or is cut after its last visit to one of them; then it gets shorter by
at least one step. -/
theorem steps_after_discover (hnodup : unseen.Nodup) (path nodes : List α) {k : Nat} {a x : α}
    (h : Steps (StepIn next unseen) k a x) :
    (∃ entry ∈ (discover path unseen nodes).2, ∃ j < k,
      Steps (StepIn next (discover path unseen nodes).1) j entry.1 x) ∨
      Steps (StepIn next (discover path unseen nodes).1) k a x := by
  induction h with
  | zero => exact Or.inr (.zero _)
  | @succ k a y z _ hstep ih =>
    obtain ⟨hyz, hz⟩ := hstep
    by_cases hmet : z ∈ nodes
    · exact Or.inl ⟨(z, path), mem_found_discover.mpr ⟨rfl, hmet, hz⟩, 0, Nat.succ_pos k, .zero z⟩
    · have hleft : z ∈ (discover path unseen nodes).1 := (mem_unseen_discover hnodup).mpr ⟨hz, hmet⟩
      rcases ih with ⟨entry, hentry, j, hj, hpath⟩ | hpath
      · exact Or.inl ⟨entry, hentry, j + 1, Nat.succ_lt_succ hj, hpath.succ ⟨hyz, hleft⟩⟩
      · exact Or.inr (hpath.succ ⟨hyz, hleft⟩)

theorem Ahead.visit {steps : Nat} (hnodup : unseen.Nodup) (hne : node ≠ target)
    (hlayered : Layered ((node, path) :: rest)) (h : Ahead next unseen ((node, path) :: rest) target steps) :
    Ahead next (discover (node :: path) unseen (next node)).1
      (rest ++ (discover (node :: path) unseen (next node)).2) target steps := by
  obtain ⟨entry, hentry, k, hpath, hle⟩ := h
  have hfirst := hlayered.head_le entry hentry
  rcases steps_after_discover hnodup (node :: path) (next node) hpath with ⟨new, hnew, j, hj, hrest⟩ | hrest
  · have hlength : new.2.length = path.length + 1 := by
      rw [(mem_found_discover.mp hnew).1, List.length_cons]
    exact ⟨new, List.mem_append_right _ hnew, j, hrest, by omega⟩
  · rcases List.mem_cons.mp hentry with rfl | hold
    · -- A path from the visited node would begin with a neighbour, and all of them have been met.
      rcases hrest.eq_or_first with heq | ⟨y, hnext, hy⟩
      · exact absurd heq hne
      · exact absurd hnext ((mem_unseen_discover hnodup).mp hy).2
    · exact ⟨entry, List.mem_append_left _ hold, k, hrest, hle⟩

/-- The first visit of a target is no further away than any path that was ahead. -/
theorem length_le_of_find? {steps : Nat} {entry : α × List α} (hnodup : unseen.Nodup) (hlayered : Layered queue)
    (hahead : Ahead next unseen queue target steps)
    (h : ((sweep next unseen queue).find? fun entry => entry.1 = target) = some entry) : entry.2.length ≤ steps := by
  fun_induction sweep next unseen queue with
  | case1 => exact absurd h (by simp)
  | case2 unseen node path rest met ih =>
    by_cases hnode : node = target
    · rw [List.find?_cons_of_pos (by simpa using hnode)] at h
      obtain rfl := Option.some.inj h
      obtain ⟨entry, hentry, k, -, hle⟩ := hahead
      have hfirst := hlayered.head_le entry hentry
      dsimp only
      omega
    · rw [List.find?_cons_of_neg (by simpa using hnode)] at h
      refine ih (hnodup.sublist (discover_sublist _ _ _)) (hlayered.visit fun entry hentry => ?_)
        (hahead.visit hnodup hnode hlayered) h
      rw [(mem_found_discover.mp hentry).1, List.length_cons]

/-! ### No node twice -/

/-- A queued node and its path: no node repeats, and none is unseen. -/
structure Fresh (unseen : List α) (entry : α × List α) : Prop where
  distinct : (entry.1 :: entry.2).Nodup
  seen : ∀ x ∈ entry.1 :: entry.2, x ∉ unseen

theorem Fresh.visit (hnodup : unseen.Nodup) (h : Fresh unseen (node, path)) {entry : α × List α}
    (hentry : entry ∈ (discover (node :: path) unseen (next node)).2) :
    Fresh (discover (node :: path) unseen (next node)).1 entry := by
  obtain ⟨hpath, hnext, hunseen⟩ := mem_found_discover.mp hentry
  constructor
  · rw [hpath]
    exact List.nodup_cons.mpr ⟨fun hmem => h.seen _ hmem hunseen, h.distinct⟩
  · intro x hx hleft
    rw [hpath] at hx
    rcases List.mem_cons.mp hx with rfl | hx
    · exact ((mem_unseen_discover hnodup).mp hleft).2 hnext
    · exact h.seen x hx ((discover_sublist _ _ _).subset hleft)

theorem nodup_of_mem_sweep (hnodup : unseen.Nodup) (hfresh : ∀ entry ∈ queue, Fresh unseen entry) {entry : α × List α}
    (h : entry ∈ sweep next unseen queue) : (entry.1 :: entry.2).Nodup := by
  have hleft : ∀ (unseen path nodes : List α) entry, Fresh unseen entry → Fresh (discover path unseen nodes).1 entry :=
    fun unseen path nodes entry hfresh =>
      ⟨hfresh.distinct, fun x hx hunseen => hfresh.seen x hx ((discover_sublist _ _ _).subset hunseen)⟩
  obtain ⟨left, hentry⟩ := sweep_induct hleft
    (fun unseen node path hnodup hfresh entry hnew => hfresh.visit hnodup hnew) hnodup hfresh entry h
  exact hentry.distinct

/-! ### The whole search -/

/-- A queue that holds the starts, each with an empty path. -/
def Starting (starts : List α) (queue : List (α × List α)) : Prop :=
  ∀ entry, entry ∈ queue ↔ entry.2 = [] ∧ entry.1 ∈ starts

namespace Starting

variable {domain : List α}

omit [DecidableEq α] in
theorem layered (h : Starting starts queue) : Layered queue := by
  have hempty : ∀ entry ∈ queue, entry.2.length = 0 := by
    intro entry hentry
    rw [((h entry).mp hentry).1, List.length_nil]
  constructor
  · refine List.pairwise_of_forall_mem_list fun a ha b _ => ?_
    rw [hempty a ha]
    exact Nat.zero_le _
  · intro a _ b hb
    rw [hempty b hb]
    exact Nat.zero_le _

/-- A path that meets another start is cut there, and gets shorter. -/
theorem ahead {steps : Nat} {start : α} (h : Starting starts queue) (hnodup : domain.Nodup) (hstart : start ∈ starts)
    (hpath : Steps (StepIn next domain) steps start target) :
    Ahead next (discover [] domain starts).1 queue target steps := by
  rcases steps_after_discover hnodup [] starts hpath with ⟨entry, hentry, j, hj, hrest⟩ | hrest
  · obtain ⟨hempty, hentry, -⟩ := mem_found_discover.mp hentry
    refine ⟨entry, (h entry).mpr ⟨hempty, hentry⟩, j, hrest, ?_⟩
    rw [hempty, List.length_nil]
    omega
  · exact ⟨(start, []), (h _).mpr ⟨rfl, hstart⟩, steps, hrest, by simp⟩

theorem trail (h : Starting starts queue) (hnodup : domain.Nodup) {entry : α × List α}
    (hentry : entry ∈ sweep next (discover [] domain starts).1 queue) : Trail next starts (entry.1 :: entry.2) := by
  refine trail_of_mem_sweep (hnodup.sublist (discover_sublist _ _ _)) (fun entry hentry => ?_) hentry
  obtain ⟨hempty, hstart⟩ := (h entry).mp hentry
  rw [hempty]
  exact ⟨.singleton _, entry.1, hstart, rfl⟩

theorem nodup (h : Starting starts queue) (hnodup : domain.Nodup) {entry : α × List α}
    (hentry : entry ∈ sweep next (discover [] domain starts).1 queue) : (entry.1 :: entry.2).Nodup := by
  refine nodup_of_mem_sweep (hnodup.sublist (discover_sublist _ _ _)) (fun entry hentry => ?_) hentry
  obtain ⟨hempty, hstart⟩ := (h entry).mp hentry
  constructor
  · rw [hempty]
    exact List.nodup_singleton _
  · intro x hx hleft
    rw [hempty, List.mem_singleton] at hx
    exact ((mem_unseen_discover hnodup).mp hleft).2 (hx ▸ hstart)

/-- If no step leads out of the domain, what is visited is what can be reached. -/
theorem exists_visit_iff (h : Starting starts queue) (hnodup : domain.Nodup)
    (hclosed : ∀ a, ∀ b ∈ next a, b ∈ domain) (target : α) :
    (∃ path, (target, path) ∈ sweep next (discover [] domain starts).1 queue) ↔
      ∃ start ∈ starts, Relation.ReflTransGen (fun a b => b ∈ next a) start target := by
  have hstep : StepIn next domain = fun a b => b ∈ next a := by
    funext a b
    exact propext ⟨And.left, fun h => ⟨h, hclosed a b h⟩⟩
  rw [exists_mem_sweep_iff (hnodup.sublist (discover_sublist _ _ _)), ← hstep]
  constructor
  · rintro ⟨entry, hentry, hpath⟩
    exact ⟨entry.1, ((h entry).mp hentry).2, path_before_discover _ _ hpath⟩
  · rintro ⟨start, hstart, hpath⟩
    rcases path_after_discover hnodup [] starts hpath with ⟨entry, hentry, hrest⟩ | hrest
    · obtain ⟨hempty, hentry, -⟩ := mem_found_discover.mp hentry
      exact ⟨entry, (h entry).mpr ⟨hempty, hentry⟩, hrest⟩
    · exact ⟨(start, []), (h _).mpr ⟨rfl, hstart⟩, hrest⟩

/-- The path of the first visit has as many steps as the target is away from the starts. -/
theorem distance (h : Starting starts queue) (hnodup : domain.Nodup) (hclosed : ∀ a, ∀ b ∈ next a, b ∈ domain)
    {entry : α × List α}
    (hfirst : ((sweep next (discover [] domain starts).1 queue).find? fun entry => entry.1 = target) = some entry) :
    Distance (fun a b => b ∈ next a) starts target entry.2.length := by
  have hnode : entry.1 = target := by simpa using List.find?_some hfirst
  refine ⟨?_, fun start hstart k hk => ?_⟩
  · obtain ⟨hchain, start, hstart, hlast⟩ := h.trail hnodup (List.mem_of_find?_eq_some hfirst)
    refine ⟨start, hstart, ?_⟩
    -- From the start on, the path is a chain of steps.
    have hhead : (entry.1 :: entry.2).reverse.head? = some start := by rw [List.head?_reverse, hlast]
    obtain ⟨rest, hrest⟩ := List.head?_eq_some_iff.mp hhead
    have hlength : rest.length = entry.2.length := by
      have heq := congrArg List.length hrest
      rw [List.length_reverse, List.length_cons, List.length_cons] at heq
      omega
    rw [← hlength]
    refine Steps.of_chain ?_ ?_
    · rw [← hrest, List.isChain_reverse]
      exact hchain
    · rw [← hrest, List.getLast?_reverse, List.head?_cons, hnode]
  · exact length_le_of_find? (hnodup.sublist (discover_sublist _ _ _)) h.layered
      (h.ahead hnodup hstart (hk.imp fun a b hb => ⟨hb, hclosed a b hb⟩)) hfirst

theorem mirrors {β : Type} {shape : List α → β} {table : OrderedMap α β} (h : Starting starts queue)
    (hnodup : domain.Nodup) (htable : ∀ x, table.get? x = if x ∈ starts then some (shape []) else none) :
    Mirrors domain shape table (discover [] domain starts).1 queue := by
  constructor
  · intro x
    rw [mem_unseen_discover hnodup, htable]
    simp
  · intro entry hentry
    obtain ⟨hempty, hstart⟩ := (h entry).mp hentry
    rw [hempty]
    exact ⟨by rw [htable, if_pos hstart], trivial⟩

end Starting

section Entered

variable {domain : List α} (hsub : starts ⊆ domain)
include hsub

theorem starting_discover : Starting starts (discover [] domain starts).2 := by
  intro entry
  rw [mem_found_discover]
  exact and_congr_right fun _ => and_iff_left_of_imp fun h => hsub h

/-- The starts are entered without a predecessor. -/
theorem mirrors_enter (hnodup : domain.Nodup) :
    (enter domain (none : Option α) {} starts).2 = (discover [] domain starts).2.map (·.1) ∧
      Mirrors domain List.head? (enter domain none {} starts).1 (discover [] domain starts).1
        (discover [] domain starts).2 := by
  have hempty : ∀ x, x ∈ domain ↔ x ∈ domain ∧ ({} : OrderedMap α (Option α)).get? x = none :=
    fun x => (and_iff_left rfl).symm
  obtain ⟨hqueue, htable⟩ := enter_eq_discover hnodup hempty none [] starts
  refine ⟨hqueue, (starting_discover hsub).mirrors hnodup fun x => ?_⟩
  have hstart : x ∈ (enter domain (none : Option α) {} starts).2 ↔ x ∈ starts := by
    rw [hqueue, List.mem_map]
    constructor
    · rintro ⟨entry, hentry, rfl⟩
      exact ((starting_discover hsub entry).mp hentry).2
    · exact fun hx => ⟨(x, []), (starting_discover hsub _).mpr ⟨rfl, hx⟩, rfl⟩
  rw [htable, if_congr hstart rfl rfl]
  rfl

end Entered

/-! ### The way back -/

/-- If the predecessors of a path are recorded, following them gives the path from its start on, cut after the last node
that passes for none. -/
theorem walkBack_of_recorded (isNone : α → Bool) {before : OrderedMap α (Option α)} {path : List α} {steps : Nat}
    (hsteps : path.length ≤ steps) (h : Recorded List.head? before path) (chain : List α) :
    walkBack isNone before steps chain path.head? =
      some ((path.takeWhile fun node => !isNone node).reverse ++ chain) := by
  induction path generalizing steps chain with
  | nil => cases steps <;> rfl
  | cons node path ih =>
    rw [List.head?_cons]
    by_cases hnone : isNone node = true
    · cases steps <;> simp [walkBack, hnone]
    · obtain ⟨steps, rfl⟩ : ∃ fewer, steps = fewer + 1 :=
        Nat.exists_eq_add_one.mpr (Nat.zero_lt_of_lt hsteps)
      rw [walkBack, if_neg hnone, h.1, Option.bind_some, ih (Nat.le_of_succ_le_succ hsteps) h.2,
        List.takeWhile_cons_of_pos (by simpa using hnone), List.reverse_cons, List.append_assoc]
      rfl

/-- The trace of a node is the path of its first visit, from its start on, cut after the last node that passes for
none. -/
theorem trace?_eq {domain : List α} (hsub : starts ⊆ domain) (hnodup : domain.Nodup) (stop isNone : α → Bool) :
    trace? domain next stop isNone starts =
      ((sweep next (discover [] domain starts).1 (discover [] domain starts).2).find? fun entry => stop entry.1).map
        fun entry => ((entry.1 :: entry.2).takeWhile fun node => !isNone node).reverse := by
  obtain ⟨hqueue, hmirrors⟩ := mirrors_enter hsub hnodup
  have hvalue : ∀ (table : OrderedMap α (Option α)) node path, table.get? node = some (List.head? path) →
      some node = List.head? (node :: path) := fun _ _ _ _ => rfl
  obtain ⟨hfound, hrecorded⟩ :=
    explore_stop hvalue (hnodup.sublist (discover_sublist _ _ _)) hmirrors next stop
  rw [← hqueue] at hfound hrecorded
  show Option.bind (explore _ _ _ _ _ _).2 _ = _
  rw [hfound]
  cases hfirst : (sweep next (discover [] domain starts).1 (discover [] domain starts).2).find?
      fun entry => stop entry.1 with
  | none => rfl
  | some entry =>
    have hpath := hrecorded entry hfirst
    -- No node repeats on the path, and each of them has an entry, so the way back is not cut short.
    have hdistinct := (starting_discover hsub).nodup hnodup (List.mem_of_find?_eq_some hfirst)
    have hlength := (hdistinct.subperm hpath.subset_keys).length_le
    rw [OrderedMap.keys, List.length_map] at hlength
    have hback := walkBack_of_recorded isNone hlength hpath []
    rwa [List.append_nil] at hback

end Graph

/-! ### Explanations in a graph -/

namespace Digraph

variable {α : Type} {graph : Digraph α} {next : α → List α} {roots path : List α} {target : α}

/-- A path of edges from a root in the graph to a target. -/
structure Route (graph : Digraph α) (roots : List α) (target : α) (path : List α) : Prop where
  begins : ∃ root ∈ roots, root ∈ graph.nodes ∧ path.head? = some root
  chain : path.IsChain graph.Edge
  ends : path.getLast? = some target

/-- A route that repeats no node, and than which none is shorter. -/
structure Shortest (graph : Digraph α) (roots : List α) (target : α) (path : List α) : Prop extends
    Route graph roots target path where
  nodup : path.Nodup
  least : ∀ other, Route graph roots target other → path.length ≤ other.length

/-- What is left of a path after the last node that passes for none. -/
structure CutBy (isNone : α → Bool) (path chain : List α) : Prop where
  ends : ∃ lost, path = lost ++ chain ∧ ∀ node, lost.getLast? = some node → isNone node = true
  named : ∀ node ∈ chain, isNone node = false

/-- What is left of a list after the last member that passes for none. -/
theorem cutBy_takeWhile (isNone : α → Bool) (nodes : List α) :
    CutBy isNone nodes.reverse (nodes.takeWhile fun node => !isNone node).reverse := by
  constructor
  · refine ⟨(nodes.dropWhile fun node => !isNone node).reverse, ?_, fun node hlast => ?_⟩
    · rw [← List.reverse_append, List.takeWhile_append_dropWhile]
    · rw [List.getLast?_reverse] at hlast
      have hstop := List.head?_dropWhile_not (fun node => !isNone node) nodes
      rw [hlast] at hstop
      simpa using hstop
  · intro node hnode
    have hnamed := List.mem_takeWhile_imp (List.mem_reverse.mp hnode)
    simpa using hnamed

/-- Where no node passes for none, nothing is cut off. -/
theorem CutBy.eq {isNone : α → Bool} {chain : List α} (h : CutBy isNone path chain)
    (hnamed : ∀ node ∈ path, isNone node = false) : chain = path := by
  obtain ⟨lost, rfl, hlost⟩ := h.ends
  have hnothing : lost = [] := by
    by_contra hne
    have hlast := hlost _ (List.getLast?_eq_some_getLast hne)
    rw [hnamed _ (List.mem_append_left _ (List.getLast_mem hne))] at hlast
    exact Bool.false_ne_true hlast
  rw [hnothing, List.nil_append]

variable [DecidableEq α] {view : NodeView α}

/-- The visits of a search from the roots in a graph. -/
def visits (graph : Digraph α) (next : α → List α) (roots : List α) : List (α × List α) :=
  let starts := Graph.discover [] graph.domain (roots.filter graph.nodes.contains)
  Graph.sweep next starts.1 starts.2

theorem contained_subset (graph : Digraph α) (roots : List α) : roots.filter graph.nodes.contains ⊆ graph.domain :=
  fun _ hroot => mem_domain_of_mem_nodes (mem_contained.mp hroot).2

theorem explain?_eq (hview : ∀ a b, view.equal a b = true → a = b) :
    graph.explain? view next roots target =
      if target ∈ graph.nodes ∧ view.equal target target = true then
        ((graph.visits next roots).find? fun entry => entry.1 = target).map fun entry =>
          ((entry.1 :: entry.2).takeWhile fun node => !view.isNone node).reverse
      else none := by
  by_cases hnode : target ∈ graph.nodes
  · rw [explain?, if_pos hnode, Graph.trace?_eq (contained_subset graph roots) (nodup_eraseDups _)]
    by_cases hself : view.equal target target = true
    · -- A node passes for the target exactly if it is the target.
      have hsame : (fun entry : α × List α => view.equal entry.1 target) = fun entry => decide (entry.1 = target) := by
        funext entry
        by_cases hentry : entry.1 = target
        · simp [hentry, hself]
        · have hother : ¬ view.equal entry.1 target = true := fun h => hentry (hview _ _ h)
          simp [hentry, hother]
      rw [if_pos ⟨hnode, hself⟩, hsame]
      rfl
    · rw [if_neg fun h => hself h.2, Option.map_eq_none_iff, List.find?_eq_none]
      intro entry _ hequal
      exact hself (hview _ _ hequal ▸ hequal)
  · rw [explain?, if_neg hnode, if_neg fun h => hnode h.1]

section Visits

variable (hnext : graph.Enumerates next)
include hnext

/-- What is visited is what is reached. -/
theorem exists_visit_iff :
    (∃ entry, ((graph.visits next roots).find? fun entry => entry.1 = target) = some entry) ↔
      target ∈ graph.reachable next roots := by
  have hclosed : ∀ a, ∀ b ∈ next a, b ∈ graph.domain := fun a b hb => hnext.mem_domain hb
  have hvisit := (Graph.starting_discover (contained_subset graph roots)).exists_visit_iff
    (nodup_eraseDups _) hclosed target
  rw [hnext.edge_eq] at hvisit
  rw [mem_reachable_iff hnext, ← Option.isSome_iff_exists, List.find?_isSome]
  constructor
  · rintro ⟨⟨node, path⟩, hentry, htarget⟩
    obtain rfl : node = target := of_decide_eq_true htarget
    obtain ⟨root, hroot, hpath⟩ := hvisit.mp ⟨path, hentry⟩
    obtain ⟨hmem, hcontained⟩ := mem_contained.mp hroot
    exact ⟨root, hmem, hcontained, hpath⟩
  · rintro ⟨root, hmem, hcontained, hpath⟩
    obtain ⟨path, hentry⟩ := hvisit.mpr ⟨root, mem_contained.mpr ⟨hmem, hcontained⟩, hpath⟩
    exact ⟨(target, path), hentry, decide_eq_true rfl⟩

/-- The path of the first visit is a shortest one. -/
theorem shortest_of_visit {entry : α × List α}
    (h : ((graph.visits next roots).find? fun entry => entry.1 = target) = some entry) :
    Shortest graph roots target (entry.1 :: entry.2).reverse := by
  have hdistinct : graph.domain.Nodup := nodup_eraseDups _
  have hstarting := Graph.starting_discover (contained_subset graph roots)
  have hvisited := List.mem_of_find?_eq_some h
  have hnode := List.find?_some h
  have hdistance := hstarting.distance hdistinct (fun a b hb => hnext.mem_domain hb) h
  obtain ⟨hchain, root, hroot, hlast⟩ := hstarting.trail hdistinct hvisited
  obtain ⟨hmem, hcontained⟩ := mem_contained.mp hroot
  rw [hnext.edge_eq] at hdistance
  refine ⟨⟨⟨root, hmem, hcontained, ?_⟩, ?_, ?_⟩, ?_, fun other hother => ?_⟩
  · rw [List.head?_reverse, hlast]
  · rw [List.isChain_reverse]
    exact hchain.imp fun a b hab => (hnext b a).mp hab
  · rw [List.getLast?_reverse, List.head?_cons, of_decide_eq_true hnode]
  · exact List.nodup_reverse.mpr (hstarting.nodup hdistinct hvisited)
  · obtain ⟨⟨start, hstart, hnode, hhead⟩, hedges, hends⟩ := hother
    obtain ⟨rest, rfl⟩ := List.head?_eq_some_iff.mp hhead
    have hle := hdistance.least start (mem_contained.mpr ⟨hstart, hnode⟩) _ (Steps.of_chain hedges hends)
    rw [List.length_reverse, List.length_cons, List.length_cons]
    omega

end Visits

theorem Route.subset_domain (h : Route graph roots target path) : path ⊆ graph.domain := by
  obtain ⟨⟨root, -, hcontained, hhead⟩, hchain, -⟩ := h
  refine hchain.induction (· ∈ graph.domain) _ (fun a b hab _ => ?_) fun hne => ?_
  · exact mem_domain.mpr (Or.inr ⟨(a, b), hab, Or.inr rfl⟩)
  · rw [List.head?_eq_some_head hne] at hhead
    exact mem_domain_of_mem_nodes (Option.some.inj hhead ▸ hcontained)

section Explanations

variable (hview : ∀ a b, view.equal a b = true → a = b) (hnext : graph.Enumerates next)
include hview hnext

theorem exists_explain?_iff :
    (∃ chain, graph.explain? view next roots target = some chain) ↔
      target ∈ graph.nodes ∧ target ∈ graph.reachable next roots ∧ view.equal target target = true := by
  rw [explain?_eq hview, ← exists_visit_iff hnext]
  split
  · rename_i hnode
    simp only [hnode, true_and, and_true, Option.map_eq_some_iff]
    exact ⟨fun ⟨_, entry, h, _⟩ => ⟨entry, h⟩, fun ⟨entry, h⟩ => ⟨_, entry, h, rfl⟩⟩
  · rename_i hnode
    constructor
    · rintro ⟨_, h⟩
      cases h
    · rintro ⟨hmem, -, hself⟩
      exact absurd ⟨hmem, hself⟩ hnode

theorem shortest_of_explain? {chain : List α} (h : graph.explain? view next roots target = some chain) :
    ∃ path, Shortest graph roots target path ∧ CutBy view.isNone path chain := by
  rw [explain?_eq hview] at h
  split at h
  · obtain ⟨entry, hentry, rfl⟩ := Option.map_eq_some_iff.mp h
    exact ⟨_, shortest_of_visit hnext hentry, cutBy_takeWhile view.isNone _⟩
  · cases h

end Explanations

theorem equal_plain (a b : α) (h : (NodeView.plain : NodeView α).equal a b = true) : a = b :=
  beq_iff_eq.mp h

/-- If a node passes for itself only, an explanation is a shortest path. -/
theorem shortest_of_explain?_plain (hnext : graph.Enumerates next)
    (h : graph.explain? .plain next roots target = some path) : Shortest graph roots target path := by
  obtain ⟨route, hshortest, hcut⟩ := shortest_of_explain? equal_plain hnext h
  rwa [hcut.eq fun _ _ => rfl]

theorem exists_explain?_plain_iff (hnext : graph.Enumerates next) :
    (∃ path, graph.explain? .plain next roots target = some path) ↔
      target ∈ graph.nodes ∧ target ∈ graph.reachable next roots := by
  rw [exists_explain?_iff equal_plain hnext]
  exact and_congr_right fun _ => and_iff_left (beq_self_eq_true target)

/-- **Explanations are shortest paths, up to a node that passes for none.**  In every directed graph, for every list of
roots and every order in which the neighbours of the nodes are listed: there is an explanation of a target exactly if it
is a node, is reached and passes for itself.  An explanation is what is left of a shortest path, after the last node on
it that passes for none; the path leads along edges from a root in the graph to the target, no node repeats on it, and
no such path has fewer nodes.  So where no node passes for none, an explanation is such a path. -/
theorem explain?_cuts_shortest (graph : Digraph α) (view : NodeView α)
    (hview : ∀ a b, view.equal a b = true → a = b) (next : α → List α) (hnext : graph.Enumerates next) (roots : List α)
    (target : α) :
    ((∃ chain, graph.explain? view next roots target = some chain) ↔
      target ∈ graph.nodes ∧ target ∈ graph.reachable next roots ∧ view.equal target target = true) ∧
    ∀ chain, graph.explain? view next roots target = some chain →
      (∃ path, Shortest graph roots target path ∧ CutBy view.isNone path chain) ∧
      ((∀ node ∈ graph.domain, view.isNone node = false) → chain ≠ [] ∧ Shortest graph roots target chain) := by
  refine ⟨exists_explain?_iff hview hnext, fun chain h => ⟨shortest_of_explain? hview hnext h, fun hnamed => ?_⟩⟩
  obtain ⟨path, hshortest, hcut⟩ := shortest_of_explain? hview hnext h
  rw [hcut.eq fun node hnode => hnamed node (hshortest.subset_domain hnode)]
  refine ⟨fun hnil => ?_, hshortest⟩
  obtain ⟨root, -, -, hhead⟩ := hshortest.begins
  rw [hnil] at hhead
  exact absurd hhead (by simp)

/-- Three ways from 1 to 5, one of them through a loop, and two roots. -/
def ways : Digraph Nat :=
  (((((({} : Digraph Nat).addEdge 1 2).addEdge 2 3).addEdge 3 2).addEdge 3 5).addEdge 1 4).addEdge 4 5

theorem explain?_cuts_shortest_ways :
    ways.Enumerates ways.neighbors ∧ (∀ a b : Nat, NodeView.plain.equal a b = true → a = b) ∧
      ways.explain? .plain ways.neighbors [9, 1] 5 = some [1, 4, 5] ∧ 5 ∈ ways.reachable ways.neighbors [9, 1] ∧
      Route ways [9, 1] 5 [1, 2, 3, 5] ∧ [1, 4, 5].length ≤ [1, 2, 3, 5].length ∧
      ∀ path, ways.explain? .plain ways.neighbors [5] 1 ≠ some path := by
  have hlisted : ways.Enumerates ways.neighbors := enumerates_neighbors ways
  have hpath : ways.explain? .plain ways.neighbors [9, 1] 5 = some [1, 4, 5] := by decide +kernel
  have hother : Route ways [9, 1] 5 [1, 2, 3, 5] := by
    refine ⟨⟨1, by decide, by decide, rfl⟩, ?_, rfl⟩
    simp only [List.isChain_cons_cons, List.isChain_singleton, and_true]
    exact ⟨show (1, 2) ∈ ways.edges by decide, show (2, 3) ∈ ways.edges by decide, show (3, 5) ∈ ways.edges by decide⟩
  obtain ⟨hfound, hshortest⟩ := explain?_cuts_shortest ways .plain equal_plain ways.neighbors hlisted [9, 1] 5
  obtain ⟨-, hnamed⟩ := hshortest _ hpath
  have hleast := (hnamed fun _ _ => rfl).2.least
  refine ⟨hlisted, equal_plain, hpath, (hfound.mp ⟨_, hpath⟩).2.1, hother, hleast _ hother, fun path h => ?_⟩
  have hnone : ways.explain? .plain ways.neighbors [5] 1 = none := by decide +kernel
  exact absurd (hnone.symm.trans h) (by simp)

/-- Nodes one of which is the value for no node. -/
def optional : NodeView (Option Nat) where
  equal node other := node == other
  isNone := Option.isNone

/-- A way from 1 to 2 through the value for no node. -/
def throughNone : Digraph (Option Nat) :=
  (({} : Digraph (Option Nat)).addEdge (some 1) none).addEdge none (some 2)

/-- The explanation of 2 does not begin at the root, and that of the value for no node is empty. -/
theorem explain?_throughNone :
    Route throughNone [some 1] (some 2) [some 1, none, some 2] ∧
      throughNone.explain? optional throughNone.neighbors [some 1] (some 2) = some [some 2] ∧
      ¬ Route throughNone [some 1] (some 2) [some 2] ∧
      throughNone.explain? optional throughNone.neighbors [some 1] none = some [] := by
  refine ⟨⟨⟨some 1, by decide, by decide, rfl⟩, ?_, rfl⟩, by decide +kernel, fun hroute => ?_, by decide +kernel⟩
  · simp only [List.isChain_cons_cons, List.isChain_singleton, and_true]
    exact ⟨show (some 1, none) ∈ throughNone.edges by decide, show (none, some 2) ∈ throughNone.edges by decide⟩
  · obtain ⟨root, hroot, -, hhead⟩ := hroute.begins
    rw [List.mem_singleton.mp hroot] at hhead
    exact absurd hhead (by decide)

end Digraph

end Deadwood
