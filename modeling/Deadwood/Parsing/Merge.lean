/-
States: situations that need not be told apart.

Situations with the same core differ only in the tokens that may follow. They are
merged into one state when they agree on what to do with the tokens they share,
when no token of one could be mistaken for a token of the other, and when the
states after them are the same again.
-/
import Deadwood.Parsing.Choice

namespace Deadwood.Parsing

/-- A situation with what is done in it. -/
structure Candidate where
  core : Nat
  choices : List (Choice × BitSet)
  /-- The tokens that are read and nothing else. -/
  read : BitSet
  /-- All tokens that something is done with. -/
  tokens : BitSet
  /-- The tokens that must not be looked for beside these. -/
  unwelcome : BitSet
  /-- The situations after the tokens of the core, or 0 where a token is not read. -/
  tokenTargets : Array Nat
  /-- The situations after the phrases of the core. -/
  phraseTargets : Array Nat
  deriving Inhabited

/-- Whether two situations are in different groups. -/
def apart (groups : Array Nat) (first second : Nat) : Bool :=
  first != second && groups.getD first 0 != groups.getD second 0

/-- Whether one of the first `count` targets of two situations is in different groups. -/
def leadsElsewhere (groups first second : Array Nat) : Nat → Bool
  | 0 => false
  | index + 1 =>
    apart groups (first.getD index 0) (second.getD index 0) || leadsElsewhere groups first second index

namespace Candidate

/-- Whether two candidates do different things with a token. -/
def disagrees (first second : Candidate) : Bool :=
  let firstAll := (Choice.read, first.read) :: first.choices
  let secondAll := (Choice.read, second.read) :: second.choices
  firstAll.any fun (choice, tokens) => secondAll.any fun (other, otherTokens) =>
    tokens.meets otherTokens && choice != other

/-- Whether tokens of one candidate must not be looked for beside those of another one. -/
def confuses (first second : Candidate) : Bool :=
  (first.tokens.diff second.tokens).meets second.unwelcome

/-- Whether two candidates with the same core cannot be merged. -/
def conflictsWith (groups : Array Nat) (first second : Candidate) : Bool :=
  first.confuses second || second.confuses first || first.disagrees second
    || leadsElsewhere groups first.tokenTargets second.tokenTargets first.tokenTargets.size

/-- Whether the states after two candidates with the same core differ. -/
def goesElsewhere (groups : Array Nat) (first second : Candidate) : Bool :=
  leadsElsewhere groups first.tokenTargets second.tokenTargets first.tokenTargets.size
    || leadsElsewhere groups first.phraseTargets second.phraseTargets first.phraseTargets.size

end Candidate

/-- Groups of situations, and the group of each situation. -/
structure Grouping where
  groups : Array (List Nat)
  groupOf : Array Nat

/-- Takes out of a list what differs from a member before it. -/
def splitOff (differ : Nat → Nat → Bool) : Nat → List Nat → List Nat × List Nat
  | 0, members => (members, [])
  | _, [] => ([], [])
  | fuel + 1, left :: rest =>
    let (out, stay) := rest.partition (differ left)
    let (kept, later) := splitOff differ fuel stay
    (left :: kept, out ++ later)

/-- Takes out of a list what differs from its first member. -/
def splitFromFirst (differ : Nat → Nat → Bool) : List Nat → List Nat × List Nat
  | [] => ([], [])
  | left :: rest =>
    let (out, stay) := rest.partition (differ left)
    (left :: stay, out)

namespace Grouping

/-- Makes what has been taken out of a group a new group. -/
def divide (grouping : Grouping) (index : Nat) (kept out : List Nat) : Grouping :=
  let new := grouping.groups.size
  { groups := (grouping.groups.set! index kept).push out
    groupOf := out.foldl (fun groupOf member => groupOf.set! member new) grouping.groupOf }

/-- Splits the groups from an index on, new ones included; answers whether any was split. -/
def splitAll (split : Array Nat → List Nat → List Nat × List Nat) (changed : Bool) :
    Nat → Nat → Grouping → Grouping × Bool
  | 0, _, grouping => (grouping, changed)
  | fuel + 1, index, grouping =>
    match grouping.groups[index]? with
    | none => (grouping, changed)
    | some members =>
      match split grouping.groupOf members with
      | (_, []) => splitAll split changed fuel (index + 1) grouping
      | (kept, out) => splitAll split true fuel (index + 1) (grouping.divide index kept out)

/-- Splits groups until the states after their members agree. -/
def settle (split : Array Nat → List Nat → List Nat × List Nat) : Nat → Grouping → Grouping
  | 0, grouping => grouping
  | fuel + 1, grouping =>
    let (next, changed) := splitAll split false (grouping.groupOf.size + 1) 0 grouping
    if changed then settle split fuel next else next

/-- Situations with the same core, in the order in which cores are met. -/
def byCore (cores : Array Nat) : Grouping :=
  let (groups, numbers) := (Array.range cores.size).foldl (fun (groups, (numbers : Std.HashMap Nat Nat)) member =>
    let core := cores.getD member 0
    match numbers[core]? with
    | some group => (groups.modify group (member :: ·), numbers)
    | none => (groups.push [member], numbers.insert core groups.size))
    ((#[] : Array (List Nat)), (∅ : Std.HashMap Nat Nat))
  { groups := groups.map List.reverse
    groupOf := cores.map fun core => numbers.getD core 0 }

/-- The groups of situations that are merged. -/
def ofCandidates (candidates : Array Candidate) : Grouping :=
  let candidate (index : Nat) : Candidate := candidates.getD index default
  let size := candidates.size + 1
  let conflict (groups : Array Nat) (first second : Nat) : Bool :=
    (candidate first).conflictsWith groups (candidate second)
  let elsewhere (groups : Array Nat) (first second : Nat) : Bool :=
    (candidate first).goesElsewhere groups (candidate second)
  let start := byCore (candidates.map (·.core))
  let (merged, _) := splitAll (fun groups members => splitOff (conflict groups) members.length members) false size 0 start
  settle (fun groups => splitFromFirst (elsewhere groups)) size merged

end Grouping

end Deadwood.Parsing
