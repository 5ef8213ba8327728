/-
Spellings of a relative path.

A path inside the project can be written from the root of the crate or from the module
that it stands in.  Each `super` leads one module outwards, and the root of the crate is
its own parent; frames of owners and functions are not modules and do not count.

* **`climb_replicate`** — leading `super` segments take as many segments off the module;
* **`relative_spellings`** — hence a path that begins with `super` means the same as the one
  that begins with `crate` and spells the outer module out, and a path that begins with
  `self` does so if and only if no `super` follows;
* **`self_super_stays`** — after `self`, a `super` is kept as if it were the name of a
  module.
-/
import Deadwood.CallSite.Basic
import Deadwood.Proofs.TrackerStates

namespace Deadwood.Scope

/-- The module that is a number of levels outside of another, or the root of the crate if there are not so many. -/
def outerModule (module : List String) (levels : Nat) : List String :=
  module.take (module.length - min levels module.length)

theorem outerModule_zero (module : List String) : outerModule module 0 = module := by
  rw [outerModule, Nat.zero_min, Nat.sub_zero, List.take_length]

theorem outerModule_succ (module : List String) (levels : Nat) :
    outerModule module (levels + 1) = outerModule module.dropLast levels := by
  rw [outerModule, outerModule, List.length_dropLast, List.dropLast_eq_take, List.take_take]
  congr 1
  omega

theorem climb_of_head_ne {module rest : List String} (hrest : rest.head? ≠ some "super") :
    climb module rest = module ++ rest := by
  rw [climb]
  rintro other rfl
  exact hrest rfl

/-- Leading `super` segments lead outwards. -/
theorem climb_replicate (module : List String) (levels : Nat) {rest : List String}
    (hrest : rest.head? ≠ some "super") :
    climb module (List.replicate levels "super" ++ rest) = outerModule module levels ++ rest := by
  induction levels generalizing module with
  | zero => rw [outerModule_zero, List.replicate_zero, List.nil_append, climb_of_head_ne hrest]
  | succ levels ih => rw [List.replicate_succ, List.cons_append, climb, ih, outerModule_succ]

namespace Tracker

variable {tracker : Tracker} {rest : List String}

theorem normalize_crate (tracker : Tracker) (rest : List String) :
    normalize ("crate" :: rest) tracker = .ok (some rest) tracker := rfl

theorem normalize_self (hactive : tracker.active = true) (rest : List String) :
    normalize ("self" :: rest) tracker = .ok (some (tracker.scope.moduleSegments ++ rest)) tracker :=
  asking_of_active hactive (·.normalize? ("self" :: rest))

theorem normalize_super (hactive : tracker.active = true) (levels : Nat) (hrest : rest.head? ≠ some "super") :
    normalize (List.replicate (levels + 1) "super" ++ rest) tracker =
      .ok (some (outerModule tracker.scope.moduleSegments (levels + 1) ++ rest)) tracker := by
  rw [← climb_replicate tracker.scope.moduleSegments (levels + 1) hrest, List.replicate_succ, List.cons_append]
  exact asking_of_active hactive (·.normalize? ("super" :: (List.replicate levels "super" ++ rest)))

end Tracker

/-- **Spellings of a relative path.**  Let a tracker be on a walk, with any frames open, and let no segment of `rest` be
`crate`, `self`, `super` or `Self`.  A path with `levels` segments `super` in front of `rest`, at least one, is the path
from the root of the crate to the module that many levels outside of the current one, followed by `rest`, and so is
that path itself after `crate`.  After `self` nothing is climbed: the `super` segments stay behind the current module,
and the spelling agrees with the others only if there are none. -/
theorem relative_spellings {tracker : Tracker} (hactive : tracker.active = true) (levels : Nat) {rest : List String}
    (hrest : ∀ segment ∈ rest, segment ∉ relativeHeads) {module target : List String}
    (hmodule : tracker.scope.moduleSegments = module) (htarget : outerModule module levels ++ rest = target) :
    (1 ≤ levels → Tracker.normalize (List.replicate levels "super" ++ rest) tracker = .ok (some target) tracker) ∧
    Tracker.normalize ("crate" :: target) tracker = .ok (some target) tracker ∧
    Tracker.normalize ("self" :: (List.replicate levels "super" ++ rest)) tracker =
      .ok (some (module ++ (List.replicate levels "super" ++ rest))) tracker ∧
    ((∃ next, Tracker.normalize ("self" :: (List.replicate levels "super" ++ rest)) tracker = .ok (some target) next) ↔
      levels = 0) := by
  subst hmodule htarget
  have hself := Tracker.normalize_self hactive (List.replicate levels "super" ++ rest)
  refine ⟨fun hlevels => ?_, Tracker.normalize_crate tracker _, hself, ?_⟩
  · have hhead : rest.head? ≠ some "super" := by
      intro hhead
      exact hrest "super" (List.mem_of_head? hhead) (by decide)
    obtain ⟨levels, rfl⟩ : ∃ n, levels = n + 1 := ⟨levels - 1, by omega⟩
    exact Tracker.normalize_super hactive levels hhead
  · rw [hself]
    constructor
    · -- What is kept has more segments than what is meant.
      rintro ⟨next, h⟩
      have hlength := congrArg List.length (Option.some.inj (EStateM.Result.ok.inj h).1)
      simp only [outerModule, List.length_append, List.length_replicate, List.length_take] at hlength
      omega
    · rintro rfl
      exact ⟨tracker, by rw [outerModule_zero, List.replicate_zero, List.nil_append]⟩

/-- A method `f` of a type in the module `net::client`: only the module counts. -/
def methodTracker : Tracker :=
  ⟨⟨["net"], [⟨.module, "client"⟩, ⟨.owner, "Client"⟩, ⟨.function, "f"⟩]⟩, true⟩

theorem relative_spellings_method :
    Tracker.normalize ["super", "helper"] methodTracker = .ok (some ["net", "helper"]) methodTracker ∧
      Tracker.normalize ["crate", "net", "helper"] methodTracker = .ok (some ["net", "helper"]) methodTracker := by
  have hrest : ∀ segment ∈ ["helper"], segment ∉ relativeHeads := by decide
  have hmodule : methodTracker.scope.moduleSegments = ["net", "client"] := rfl
  have htarget : outerModule ["net", "client"] 1 ++ ["helper"] = ["net", "helper"] := rfl
  obtain ⟨hsuper, hcrate, -, -⟩ := relative_spellings rfl 1 hrest hmodule htarget
  exact ⟨hsuper (Nat.le_refl 1), hcrate⟩

/-- A tracker on a walk in the module `net::client`. -/
def clientTracker : Tracker := (Tracker.ofBase ["net", "client"]).start

/-- After `self`, a `super` is not followed: `self::super::helper` in the module `net::client` means `net::helper`, as
`super::helper` does. -/
theorem self_super_stays :
    clientTracker.active = true ∧
      outerModule clientTracker.scope.moduleSegments 1 ++ ["helper"] = ["net", "helper"] ∧
      Tracker.normalize ["super", "helper"] clientTracker = .ok (some ["net", "helper"]) clientTracker ∧
      Tracker.normalize ["self", "super", "helper"] clientTracker =
        .ok (some ["net", "client", "super", "helper"]) clientTracker ∧
      ∀ next, Tracker.normalize ["self", "super", "helper"] clientTracker ≠ .ok (some ["net", "helper"]) next := by
  have hkept : Tracker.normalize ["self", "super", "helper"] clientTracker =
      .ok (some ["net", "client", "super", "helper"]) clientTracker := rfl
  refine ⟨rfl, rfl, rfl, hkept, fun next h => ?_⟩
  have hsame := Option.some.inj (EStateM.Result.ok.inj (hkept.symm.trans h)).1
  exact absurd hsame (by decide)

end Deadwood.Scope
