/-
Which values can be shown.

A value is shown part by part, each before the parts in it (`Value.parts`).  It cannot be shown
for the first part that is nested too deeply or is an integer with too many digits
(`Value.fault?_eq_some_iff`), and can be if there is no such part (`Value.fault?_eq_none_iff`).
-/
import Deadwood.Value.Display

namespace Deadwood.Value

mutual

/-- The parts of a value with their levels, in the order in which they are shown. The value itself is the first. -/
def parts : Nat → Value → List (Nat × Value)
  | level, .list items => (level, .list items) :: partsAmong (level + 1) items
  | level, .tuple items => (level, .tuple items) :: partsAmong (level + 1) items
  | level, .set items => (level, .set items) :: partsAmong (level + 2) items
  | level, .map entries => (level, .map entries) :: partsOfEntries (level + 1) entries
  | level, .knot _ content => parts level content
  | level, value => [(level, value)]

/-- The parts of several values. -/
def partsAmong : Nat → List Value → List (Nat × Value)
  | _, [] => []
  | level, item :: rest => parts level item ++ partsAmong level rest

/-- The parts of several entries of a map. -/
def partsOfEntries : Nat → List (Value × Value) → List (Nat × Value)
  | _, [] => []
  | level, (key, value) :: rest => parts level key ++ parts level value ++ partsOfEntries level rest

end

/-- A part cannot be shown if parts may be nested to a depth. -/
inductive PartFails (depth : Nat) : Nat × Value → ShowFault → Prop where
  | tooDeep {level : Nat} {part : Value} (hlevel : depth < level) : PartFails depth (level, part) .tooDeep
  | longInteger {level : Nat} {i : Int} (hlevel : level ≤ depth) (hlong : Numeral.isShowable i = false) :
    PartFails depth (level, .int i) .longInteger

/-- All parts of a value can be shown. -/
def Showable (depth : Nat) (value : Value) : Prop :=
  ∀ part ∈ value.parts 0, ∀ fault, ¬ PartFails depth part fault

/-- The first part of a value that cannot be shown cannot be for a fault. -/
def Unshowable (depth : Nat) (value : Value) (fault : ShowFault) : Prop :=
  ∃ before part after, value.parts 0 = before ++ part :: after ∧
    (∀ earlier ∈ before, ∀ other, ¬ PartFails depth earlier other) ∧ PartFails depth part fault

/-- Why a part cannot be shown. -/
def partFault? (depth : Nat) (part : Nat × Value) : Option ShowFault :=
  if depth < part.1 then some .tooDeep
  else match part.2 with
    | .int i => if Numeral.isShowable i then none else some .longInteger
    | _ => none

theorem partFault?_eq_some_iff {depth : Nat} {part : Nat × Value} {fault : ShowFault} :
    partFault? depth part = some fault ↔ PartFails depth part fault := by
  obtain ⟨level, value⟩ := part
  rw [partFault?]
  by_cases hlevel : depth < level
  · rw [if_pos hlevel]
    constructor
    · intro h
      cases h
      exact .tooDeep hlevel
    · rintro (_ | ⟨hroom, -⟩)
      · rfl
      · omega
  · rw [if_neg hlevel]
    constructor
    · intro h
      split at h
      · split at h
        · cases h
        · next i hvalue hlong =>
          cases hvalue
          cases h
          exact .longInteger (by omega) (by simpa using hlong)
      · cases h
    · rintro (hdeep | ⟨-, hlong⟩)
      · exact absurd hdeep hlevel
      · simp [hlong]

/-! ### Showing a value goes through its parts -/

theorem parts_eq_cons (level : Nat) (value : Value) : ∃ part rest, parts level value = (level, part) :: rest := by
  cases value with
  | knot text content => exact parts_eq_cons level content
  | _ => exact ⟨_, _, rfl⟩

/-- A value is too deep as soon as its level is. -/
theorem findSome?_parts_of_lt {depth level : Nat} (h : depth < level) (value : Value) (more : List (Nat × Value)) :
    (parts level value ++ more).findSome? (partFault? depth) = some .tooDeep := by
  obtain ⟨part, rest, hparts⟩ := parts_eq_cons level value
  rw [hparts, List.cons_append, List.findSome?_cons, partFault?, if_pos h]

theorem faultAmong?_zero (level deeper : Nat) (items : List Value) :
    faultAmong? 0 items = (partsAmong (level + (deeper + 1)) items).findSome? (partFault? level) := by
  cases items with
  | nil => rfl
  | cons item rest => rw [faultAmong?, partsAmong, findSome?_parts_of_lt (by omega)]

mutual

/-- What a value cannot be shown for is what the first of its parts cannot be shown for. -/
theorem fault?_eq (depth level : Nat) (value : Value) :
    fault? depth value = (parts level value).findSome? (partFault? (level + depth)) := by
  have hlevel : ¬ level + depth < level := by omega
  cases value with
  | int i =>
    rw [fault?, parts, List.findSome?_singleton, partFault?, if_neg hlevel]
    all_goals simp
  | list items =>
    rw [fault?, parts, List.findSome?_cons, partFault?, if_neg hlevel]
    exact faultAmong?_eq depth level items
  | tuple items =>
    rw [fault?, parts, List.findSome?_cons, partFault?, if_neg hlevel]
    exact faultAmong?_eq depth level items
  | set items =>
    rw [fault?, parts, List.findSome?_cons, partFault?, if_neg hlevel]
    cases depth with
    | zero => exact faultAmong?_zero level 1 items
    | succ depth =>
      have hrest := faultAmong?_eq depth (level + 1) items
      rwa [Nat.add_assoc level 1 1, Nat.add_assoc level 1, Nat.add_comm 1 depth] at hrest
  | map entries =>
    rw [fault?, parts, List.findSome?_cons, partFault?, if_neg hlevel]
    exact entryFault?_eq depth level entries
  | knot text content =>
    rw [fault?, parts]
    exact fault?_eq depth level content
  | _ => simp [fault?, parts, partFault?]

theorem faultAmong?_eq (depth level : Nat) (items : List Value) :
    faultAmong? depth items = (partsAmong (level + 1) items).findSome? (partFault? (level + depth)) := by
  cases items with
  | nil => simp [faultAmong?, partsAmong]
  | cons item rest =>
    cases depth with
    | zero => exact faultAmong?_zero level 0 (item :: rest)
    | succ depth =>
      have hitem := fault?_eq depth (level + 1) item
      rw [Nat.add_assoc, Nat.add_comm 1 depth] at hitem
      rw [faultAmong?, partsAmong, List.findSome?_append, hitem, faultAmong?_eq (depth + 1) level rest]

theorem entryFault?_eq (depth level : Nat) (entries : List (Value × Value)) :
    entryFault? depth entries = (partsOfEntries (level + 1) entries).findSome? (partFault? (level + depth)) := by
  cases entries with
  | nil => simp [entryFault?, partsOfEntries]
  | cons entry rest =>
    obtain ⟨key, value⟩ := entry
    cases depth with
    | zero =>
      rw [entryFault?, partsOfEntries, List.append_assoc, findSome?_parts_of_lt (by omega)]
    | succ depth =>
      have hkey := fault?_eq depth (level + 1) key
      have hvalue := fault?_eq depth (level + 1) value
      rw [Nat.add_assoc, Nat.add_comm 1 depth] at hkey hvalue
      rw [entryFault?, partsOfEntries, List.findSome?_append, List.findSome?_append, hkey, hvalue,
        entryFault?_eq (depth + 1) level rest]

end

theorem fault?_eq_some_iff {depth : Nat} {value : Value} {fault : ShowFault} :
    fault? depth value = some fault ↔ Unshowable depth value fault := by
  have hnone : ∀ part, partFault? depth part = none ↔ ∀ other, ¬ PartFails depth part other := by
    intro part
    simp only [← partFault?_eq_some_iff]
    exact Option.eq_none_iff_forall_ne_some
  rw [fault?_eq depth 0, Nat.zero_add, List.findSome?_eq_some_iff]
  simp only [hnone, partFault?_eq_some_iff, Unshowable]
  constructor
  · rintro ⟨before, part, after, hparts, hpart, hbefore⟩
    exact ⟨before, part, after, hparts, hbefore, hpart⟩
  · rintro ⟨before, part, after, hparts, hbefore, hpart⟩
    exact ⟨before, part, after, hparts, hpart, hbefore⟩

example : fault? 1 (.map [(.text "a", .map [(.text "b", .null)])]) = some .tooDeep := rfl

theorem fault?_eq_none_iff {depth : Nat} {value : Value} : fault? depth value = none ↔ Showable depth value := by
  rw [fault?_eq depth 0, Nat.zero_add, List.findSome?_eq_none_iff]
  simp only [Option.eq_none_iff_forall_ne_some, ne_eq, partFault?_eq_some_iff, Showable]

end Deadwood.Value
