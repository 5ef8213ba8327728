/-
Counting the functions of a call graph.

One pass over the functions counts them by visibility and sorts out those that are
neither reached nor ignored. After any number of functions the counters stand where
separate counts of these functions would (`Census.take?_eq`).
-/
import Deadwood.Policy

namespace Deadwood

/-- How many functions of a visibility there are, and how many of them are dead. -/
structure Tally where
  visibility : Visibility
  total : Nat := 0
  dead : Nat := 0
  deriving DecidableEq, Repr

/-- Changes the row of a visibility. There is no answer if it has none. -/
def Tally.update? (v : Visibility) (change : Tally → Tally) : List Tally → Option (List Tally)
  | [] => none
  | row :: rest =>
    if row.visibility = v then some (change row :: rest) else (update? v change rest).map (row :: ·)

/-- The counters of a pass over functions, and the keys of those that are dead. -/
structure Census where
  tallies : List Tally := Visibility.all.map fun v => { visibility := v }
  ignored : Nat := 0
  publicDead : Nat := 0
  privateDead : Nat := 0
  dead : List Key := []
  deriving Repr

namespace Census

/-- Counts a dead function. -/
def bury? (census : Census) (symbol : Symbol) : Option Census := do
  let tallies ← Tally.update? symbol.visibility (fun row => { row with dead := row.dead + 1 }) census.tallies
  let census := { census with tallies, dead := census.dead ++ [symbol.key] }
  return if symbol.visibility.isPublic then { census with publicDead := census.publicDead + 1 }
    else { census with privateDead := census.privateDead + 1 }

/-- Counts a function. There is no answer if its visibility has no row. -/
def count? (policy : Policy) (reachable : List Key) (census : Census) (symbol : Symbol) : Option Census := do
  let tallies ← Tally.update? symbol.visibility (fun row => { row with total := row.total + 1 }) census.tallies
  let census := { census with tallies }
  if reachable.contains symbol.key then return census
  else if policy.ignores symbol then return { census with ignored := census.ignored + 1 }
  else census.bury? symbol

/-- Counts functions in one pass. -/
def take? (policy : Policy) (reachable : List Key) (symbols : List Symbol) : Option Census :=
  symbols.foldlM (count? policy reachable) {}

/-! ### Counting one thing at a time -/

/-- The functions that are not reached. -/
def unreached (reachable : List Key) (symbols : List Symbol) : List Symbol :=
  symbols.filter fun symbol => !reachable.contains symbol.key

/-- The functions that are neither reached nor ignored. -/
def condemned (policy : Policy) (reachable : List Key) (symbols : List Symbol) : List Symbol :=
  (unreached reachable symbols).filter fun symbol => !policy.ignores symbol

theorem condemned_sublist (policy : Policy) (reachable : List Key) (symbols : List Symbol) :
    (condemned policy reachable symbols).Sublist symbols :=
  List.filter_sublist.trans List.filter_sublist

/-- Counts functions by visibility. -/
def tally (symbols dead : List Symbol) : List Tally :=
  Visibility.all.map fun v =>
    { visibility := v, total := symbols.countP (·.visibility == v), dead := dead.countP (·.visibility == v) }

/-- The counts of some functions. -/
def counts (policy : Policy) (reachable : List Key) (symbols : List Symbol) : Census where
  tallies := tally symbols (condemned policy reachable symbols)
  ignored := (unreached reachable symbols).countP policy.ignores
  publicDead := (condemned policy reachable symbols).countP (·.visibility.isPublic)
  privateDead := (condemned policy reachable symbols).countP (!·.visibility.isPublic)
  dead := (condemned policy reachable symbols).map (·.key)

theorem update?_map {v : Visibility} {change : Tally → Tally} {row : Visibility → Tally} {all : List Visibility}
    (hrow : ∀ u, (row u).visibility = u) (hmem : v ∈ all) (hnodup : all.Nodup) :
    Tally.update? v change (all.map row) = some (all.map fun u => if u = v then change (row u) else row u) := by
  induction all with
  | nil => exact absurd hmem List.not_mem_nil
  | cons u rest ih =>
    obtain ⟨hnot, hrest⟩ := List.nodup_cons.mp hnodup
    rw [List.map_cons, List.map_cons, Tally.update?, hrow]
    by_cases hu : u = v
    · rw [if_pos hu, if_pos hu]
      have hsame : ∀ w ∈ rest, (if w = v then change (row w) else row w) = row w := by
        intro w hw
        refine if_neg ?_
        rintro rfl
        exact hnot (hu ▸ hw)
      rw [List.map_congr_left hsame]
    · have hv : v ∈ rest := (List.mem_cons.mp hmem).resolve_left fun heq => hu heq.symm
      rw [if_neg hu, if_neg hu, ih hv hrest, Option.map_some]

theorem nodup_visibilities : Visibility.all.Nodup := by decide

theorem update?_tally_total (symbols dead : List Symbol) (s : Symbol) :
    Tally.update? s.visibility (fun row => { row with total := row.total + 1 }) (tally symbols dead) =
      some (tally (symbols ++ [s]) dead) := by
  rw [tally, update?_map (fun _ => rfl) s.visibility.mem_all nodup_visibilities, tally]
  refine congrArg some (List.map_congr_left fun v _ => ?_)
  by_cases hv : v = s.visibility
  · simp [hv]
  · simp [hv, Ne.symm hv]

theorem update?_tally_dead (symbols dead : List Symbol) (s : Symbol) :
    Tally.update? s.visibility (fun row => { row with dead := row.dead + 1 }) (tally symbols dead) =
      some (tally symbols (dead ++ [s])) := by
  rw [tally, update?_map (fun _ => rfl) s.visibility.mem_all nodup_visibilities, tally]
  refine congrArg some (List.map_congr_left fun v _ => ?_)
  by_cases hv : v = s.visibility
  · simp [hv]
  · simp [hv, Ne.symm hv]

variable {policy : Policy} {reachable : List Key}

theorem unreached_append (reachable : List Key) (symbols : List Symbol) (s : Symbol) :
    unreached reachable (symbols ++ [s]) = unreached reachable symbols ++ if s.key ∈ reachable then [] else [s] := by
  rw [unreached, List.filter_append, ← unreached]
  by_cases hreached : s.key ∈ reachable <;> simp [hreached]

theorem condemned_append (policy : Policy) (reachable : List Key) (symbols : List Symbol) (s : Symbol) :
    condemned policy reachable (symbols ++ [s]) =
      condemned policy reachable symbols ++ if s.key ∈ reachable ∨ policy.ignores s = true then [] else [s] := by
  rw [condemned, unreached_append, List.filter_append, ← condemned]
  by_cases hreached : s.key ∈ reachable <;> cases hignores : policy.ignores s <;> simp [hreached, hignores]

/-- Counting one more function keeps all counters in step. -/
theorem count?_counts (before : List Symbol) (s : Symbol) :
    count? policy reachable (counts policy reachable before) s = some (counts policy reachable (before ++ [s])) := by
  have htotal := update?_tally_total before (condemned policy reachable before) s
  have hdead := update?_tally_dead (before ++ [s]) (condemned policy reachable before) s
  rw [counts, counts, unreached_append, condemned_append]
  by_cases hreached : s.key ∈ reachable
  · simp [count?, htotal, hreached]
  · by_cases hignores : policy.ignores s = true
    · simp [count?, htotal, hreached, hignores]
    · by_cases hpublic : s.visibility.isPublic = true
      · simp [count?, bury?, htotal, hdead, hreached, hignores, hpublic]
      · simp [count?, bury?, htotal, hdead, hreached, hignores, hpublic]

theorem foldlM_counts (before symbols : List Symbol) :
    symbols.foldlM (count? policy reachable) (counts policy reachable before) =
      some (counts policy reachable (before ++ symbols)) := by
  induction symbols generalizing before with
  | nil => rw [List.append_nil]; rfl
  | cons s rest ih =>
    rw [List.foldlM_cons, count?_counts]
    show rest.foldlM _ (counts policy reachable (before ++ [s])) = _
    rw [ih, List.append_assoc, List.singleton_append]

/-- One pass gives what separate counts give. -/
theorem take?_eq (policy : Policy) (reachable : List Key) (symbols : List Symbol) :
    take? policy reachable symbols = some (counts policy reachable symbols) :=
  foldlM_counts [] symbols

end Census

end Deadwood
