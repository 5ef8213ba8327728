/-
Chains of imports are followed to their end.

A path is followed from its longest start that is an alias, alias by alias, as long as there is a
next one and `aliasHops` allows it.  The main statements are

* **`chase_of_chain`** — a chain that the limit allows is followed to its end, if the end is no
  alias;
* **`followAlias_of_longest`** — what the longest start leads to takes its place in the path, and
  `followAlias_of_none` — a path without such a start stays as it is;
* **`alias_chain_followed`** — hence a call by such a path reaches the functions at the end of the
  chain, those in the caller's file if there are any.

A chain that ends cannot run in a circle, since an alias has one target.  So the two conditions on
which the loop stops early, an empty target and one that is the alias itself, do not arise.
-/
import Deadwood.Proofs.Aliases
import Deadwood.Proofs.Linking
import Mathlib.Data.List.Chain

namespace Deadwood.Catalog

open ModulePath (split join)

variable {catalog : Catalog} {call : CallSite} {path written final : String}

/-! ### Following aliases -/

instance (catalog : Catalog) : DecidableRel catalog.HasAlias := fun path target =>
  inferInstanceAs (Decidable (catalog.aliases.get? path = some target))

theorem chase_of_none (hnone : catalog.aliases.get? path = none) (hops : Nat) : catalog.chase hops path = path := by
  cases hops with
  | zero => rfl
  | succ hops => simp only [chase, hnone]

/-- Whatever a chain visits after an alias of itself is that alias. -/
theorem eq_of_loop (hloop : catalog.HasAlias path path) {chain : List String}
    (hchain : (path :: chain).IsChain catalog.HasAlias) : ∀ x ∈ path :: chain, x = path := by
  refine hchain.induction (· = path) _ (fun x y hxy hx => ?_) fun _ => rfl
  have hsame : catalog.aliases.get? path = some y := hx ▸ hxy
  exact Option.some.inj (hsame.symm.trans hloop)

/-- A chain of aliases is followed to its end. -/
theorem chase_of_chain {chain : List String} {hops : Nat} (hchain : (path :: chain).IsChain catalog.HasAlias)
    (hlength : chain.length ≤ hops) (hempty : "" ∉ chain) (hlast : (path :: chain).getLast? = some final)
    (hend : catalog.aliases.get? final = none) : catalog.chase hops path = final := by
  induction chain generalizing path hops with
  | nil =>
    obtain rfl : path = final := Option.some.inj hlast
    exact chase_of_none hend hops
  | cons target rest ih =>
    obtain ⟨hfirst, hrest⟩ := List.isChain_cons_cons.mp hchain
    obtain ⟨hops, rfl⟩ : ∃ n, hops = n + 1 := by
      rw [List.length_cons] at hlength
      exact ⟨hops - 1, by omega⟩
    have htarget : target ≠ "" := fun heq => hempty (heq ▸ List.mem_cons_self)
    have hmoves : target ≠ path := by
      rintro rfl
      -- The chain would never leave this alias, but its end is none.
      have hstays := eq_of_loop hfirst hchain final (List.mem_of_getLast? hlast)
      have hsome : catalog.aliases.get? final = some target := hstays ▸ hfirst
      exact absurd (hend.symm.trans hsome) (by simp)
    have hstep : catalog.chase (hops + 1) path = catalog.chase hops target := by
      have hget : catalog.aliases.get? path = some target := hfirst
      simp only [chase, hget]
      rw [if_neg (by simp [htarget, hmoves])]
    rw [hstep]
    refine ih hrest ?_ (fun hmem => hempty (List.mem_cons_of_mem _ hmem)) ?_
    · rw [List.length_cons] at hlength
      omega
    · rwa [List.getLast?_cons_cons] at hlast

/-- The longest start of some segments that is an alias, and the segments after it. -/
structure LongestAlias (catalog : Catalog) (segments front rest : List String) : Prop where
  parts : segments = front ++ rest
  nonempty : front ≠ []
  isAlias : ∃ target, catalog.HasAlias (join front) target
  longest : ∀ longer, longer <+: segments → front.length < longer.length → catalog.aliases.get? (join longer) = none

/-- What a path leads to from a start of its segments, if that is somewhere else. -/
def leadsTo? (catalog : Catalog) (segments start : List String) : Option String :=
  if catalog.chase aliasHops (join start) == join start then none
  else some (join (split (catalog.chase aliasHops (join start)) ++ segments.drop start.length))

theorem followAlias_eq (catalog : Catalog) (path : String) :
    catalog.followAlias path = ((starts (split path)).findSome? (catalog.leadsTo? (split path))).getD path :=
  rfl

theorem leadsTo?_of_none {segments start : List String} (hnone : catalog.aliases.get? (join start) = none) :
    catalog.leadsTo? segments start = none := by
  rw [leadsTo?, chase_of_none hnone, if_pos (beq_self_eq_true _)]

theorem followAlias_of_longest {front rest : List String} (h : LongestAlias catalog (split path) front rest)
    (hmoves : catalog.chase aliasHops (join front) ≠ join front) :
    catalog.followAlias path = join (split (catalog.chase aliasHops (join front)) ++ rest) := by
  have hpre : front <+: split path := ⟨rest, h.parts.symm⟩
  have hrest : (split path).drop front.length = rest := by rw [h.parts, List.drop_left]
  obtain ⟨longer, shorter, hstarts, hlonger⟩ := exists_longer_starts h.nonempty hpre
  have hfound : (starts (split path)).findSome? (catalog.leadsTo? (split path)) =
      some (join (split (catalog.chase aliasHops (join front)) ++ rest)) := by
    refine List.findSome?_eq_some_iff.mpr ⟨longer, front, shorter, hstarts, ?_, fun inner hinner => ?_⟩
    · rw [leadsTo?, if_neg fun heq => hmoves (beq_iff_eq.mp heq), hrest]
    · -- A longer start is no alias, so it leads nowhere.
      obtain ⟨hinside, hlength⟩ := hlonger inner hinner
      exact leadsTo?_of_none (h.longest inner hinside hlength)
  rw [followAlias_eq, hfound, Option.getD_some]

theorem followAlias_of_none
    (hnone : ∀ front, front ≠ [] → front <+: split path → catalog.aliases.get? (join front) = none) :
    catalog.followAlias path = path := by
  have hfound : (starts (split path)).findSome? (catalog.leadsTo? (split path)) = none := by
    refine List.findSome?_eq_none_iff.mpr fun start hstart => ?_
    obtain ⟨hne, hpre⟩ := mem_starts.mp hstart
    exact leadsTo?_of_none (hnone start hne hpre)
  rw [followAlias_eq, hfound, Option.getD_none]

/-- A chain of aliases from a first one to an end that is none, with at least one hop and no more than the limit. -/
structure AliasChain (catalog : Catalog) (first : String) (chain : List String) (final : String) : Prop where
  linked : (first :: chain).IsChain catalog.HasAlias
  some_hop : 1 ≤ chain.length
  within_limit : chain.length ≤ aliasHops
  nonempty : "" ∉ first :: chain
  last : (first :: chain).getLast? = some final
  ends : catalog.aliases.get? final = none

theorem followAlias_of_chain {front rest chain : List String} (h : LongestAlias catalog (split path) front rest)
    (hchain : AliasChain catalog (join front) chain final) :
    catalog.followAlias path = join (split final ++ rest) := by
  have hchase : catalog.chase aliasHops (join front) = final :=
    chase_of_chain hchain.linked hchain.within_limit (fun hmem => hchain.nonempty (List.mem_cons_of_mem _ hmem))
      hchain.last hchain.ends
  have hmoves : final ≠ join front := by
    rintro rfl
    obtain ⟨target, htarget⟩ := h.isAlias
    exact absurd (hchain.ends.symm.trans htarget) (by simp)
  rw [followAlias_of_longest h (by rwa [hchase]), hchase]

/-! ### Calls by a path that imports lead on from -/

/-- The functions with a path: those in the given file, if it has one with that path, and all of them otherwise. -/
theorem mem_exact_iff {file : String} {key : Key} :
    key ∈ catalog.exact path file ↔
      key ∈ catalog.keys ∧ key.path = path ∧ (⟨file, path⟩ ∈ catalog.keys → key.file = file) := by
  by_cases hdeclared : ⟨file, path⟩ ∈ catalog.keys
  · rw [exact_of_mem hdeclared, List.mem_singleton]
    constructor
    · rintro rfl
      exact ⟨hdeclared, rfl, fun _ => rfl⟩
    · rintro ⟨-, hpath, hfile⟩
      exact congrArg₂ Key.mk (hfile hdeclared) hpath
  · have hmem : ∀ key, key ∈ catalog.withPath path ↔ key ∈ catalog.keys ∧ key.path = path := by
      intro key
      rw [mem_withPath, mem_keys]
      constructor
      · rintro ⟨s, hs, rfl, hpath⟩
        exact ⟨⟨s, hs, rfl⟩, hpath⟩
      · rintro ⟨⟨s, hs, rfl⟩, hpath⟩
        exact ⟨s, hs, rfl, hpath⟩
    have hnone : (catalog.withPath path).filter (·.file == file) = [] := by
      refine List.filter_eq_nil_iff.mpr fun key hkey hfile => hdeclared ?_
      obtain ⟨hknown, rfl⟩ := (hmem key).mp hkey
      obtain rfl : key.file = file := beq_iff_eq.mp hfile
      exact hknown
    rw [exact, preferFile, hnone]
    simp only [hmem, hdeclared, false_implies, and_true]

/-- A call with a written path leads where imports lead, if no function has its path and one has that path. -/
theorem resolve_of_imported (hwritten : call.path = some written) (hresolved : HasPath call path)
    (habsent : catalog.withPath path = []) (hfound : catalog.withPath (catalog.followAlias path) ≠ []) :
    catalog.resolve call = .ok (.linked .imported (catalog.exact (catalog.followAlias path) call.file)) := by
  have hsame : ∀ path', HasPath call path' → path' = path :=
    fun path' h => Option.some.inj (h.1.symm.trans hresolved.1)
  have hknown : ∀ path', HasPath call path' → ¬ catalog.Unknown path' := by
    intro path' h hunknown
    exact hfound (hsame path' h ▸ hunknown.2)
  obtain ⟨r, hr⟩ : ∃ r, catalog.resolve call = .ok r := by
    refine exists_resolve_iff.mpr ?_
    rintro ⟨_, path', -, -, hpath', hunknown, -⟩
    exact hknown path' hpath' hunknown
  rw [hr]
  congr 1
  cases resolves_of_resolve hr with
  | lexical found => exact absurd ((lexical?_eq_none_of_path hwritten).symm.trans found) (by simp)
  | exact _ resolved found =>
    rw [hsame _ resolved] at found
    exact absurd (exact_eq_nil.mpr habsent) found
  | imported _ resolved _ _ => rw [hsame _ resolved]
  | external _ resolved unknown _ _ => exact absurd unknown (hknown _ resolved)
  | tail _ resolved unknown _ _ => exact absurd unknown (hknown _ resolved)
  | onlyInFile _ unknown _ => exact absurd (unknown path hresolved) (hknown path hresolved)
  | byName _ unknown _ => exact absurd (unknown path hresolved) (hknown path hresolved)
  | unresolved _ unknown _ => exact absurd (unknown path hresolved) (hknown path hresolved)

theorem LongestAlias.path_ne_empty {front rest : List String} (h : LongestAlias catalog (split path) front rest) :
    path ≠ "" := by
  rintro rfl
  have hsplit : split "" = [] := by decide +kernel
  have hparts := h.parts
  rw [hsplit] at hparts
  exact h.nonempty (List.append_eq_nil_iff.mp hparts.symm).1

end Deadwood.Catalog

namespace Deadwood.CallGraph

open ModulePath (split join)
open Catalog (LongestAlias AliasChain)

/-- **Chains of imports up to the limit are followed to their end.**  In every graph: if the longest start of a path
that is an alias begins a chain of one to ten aliases, none of them empty, whose end is no alias, then the path leads to
that end with the rest of the path after it.  A call that is written with a path, and whose own path no function has,
then reaches exactly the functions with the path at the end, if there are any: those in the caller's file if it declares
that path, and all of them otherwise.  A path of which no start is an alias leads to itself. -/
theorem alias_chain_followed (graph : CallGraph) (path : String) :
    (∀ front rest chain final, LongestAlias graph.catalog (split path) front rest →
      AliasChain graph.catalog (join front) chain final →
        graph.catalog.followAlias path = join (split final ++ rest) ∧
        ∀ call : CallSite, call.path ≠ none → call.resolved = some path →
          (∀ s ∈ graph.catalog.symbols, s.fullPath ≠ path) →
          (∃ s ∈ graph.catalog.symbols, s.fullPath = join (split final ++ rest)) →
            ∃ keys, graph.catalog.resolve call = .ok (.linked .imported keys) ∧ keys.Nodup ∧
              ∀ key, key ∈ keys ↔ key ∈ graph.catalog.keys ∧ key.path = join (split final ++ rest) ∧
                (⟨call.file, join (split final ++ rest)⟩ ∈ graph.catalog.keys → key.file = call.file)) ∧
    ((∀ front, front ≠ [] → front <+: split path → graph.catalog.aliases.get? (join front) = none) →
      graph.catalog.followAlias path = path) := by
  refine ⟨fun front rest chain final hlongest hchain => ?_, Catalog.followAlias_of_none⟩
  have hfollow := Catalog.followAlias_of_chain hlongest hchain
  refine ⟨hfollow, fun call hwritten hresolved habsent hfound => ?_⟩
  obtain ⟨written, hwritten⟩ := Option.ne_none_iff_exists'.mp hwritten
  have hnone : graph.catalog.withPath path = [] := by
    refine List.eq_nil_iff_forall_not_mem.mpr fun key hkey => ?_
    obtain ⟨s, hs, -, hpath⟩ := Catalog.mem_withPath.mp hkey
    exact habsent s hs hpath
  have hsome : graph.catalog.withPath (graph.catalog.followAlias path) ≠ [] := by
    obtain ⟨s, hs, hpath⟩ := hfound
    exact List.ne_nil_of_mem (Catalog.mem_withPath.mpr ⟨s, hs, rfl, hpath.trans hfollow.symm⟩)
  have hresolve := Catalog.resolve_of_imported hwritten ⟨hresolved, hlongest.path_ne_empty⟩ hnone hsome
  rw [hfollow] at hresolve
  refine ⟨_, hresolve, (Catalog.resolves_of_resolve hresolve).nodup, fun key => Catalog.mem_exact_iff⟩

/-! A project whose imports pass a function on ten times, as often as the limit allows. -/

def relayNames : List String := ["a", "b", "c", "d", "e", "f", "g", "h", "i", "j", "k"]

def relayImports : Imports := ⟨[("", ⟨relayNames.zip relayNames.tail⟩)]⟩

def relayFunction (file : String) : Symbol :=
  { name := "run", fullPath := "k::run", visibility := .inModule, file, span := sampleSpan }

def relayCall (file : String) : CallSite :=
  { callee := "run", file, span := sampleSpan, enclosing := "main", path := some "a::run", resolved := some "a::run" }

def relayGraph : CallGraph :=
  { catalog := Catalog.ofProject [relayFunction "src/k.rs", relayFunction "src/k/mod.rs"] relayImports }

theorem alias_chain_followed_relay :
    build [relayFunction "src/k.rs", relayFunction "src/k/mod.rs"] [] relayImports = .ok relayGraph ∧
      LongestAlias relayGraph.catalog (split "a::run") ["a"] ["run"] ∧
      AliasChain relayGraph.catalog (join ["a"]) relayNames.tail "k" ∧
      relayGraph.catalog.followAlias "a::run" = "k::run" ∧
      (∃ keys, relayGraph.catalog.resolve (relayCall "src/main.rs") = .ok (.linked .imported keys) ∧
        (relayFunction "src/k.rs").key ∈ keys ∧ (relayFunction "src/k/mod.rs").key ∈ keys) ∧
      ∃ keys, relayGraph.catalog.resolve (relayCall "src/k.rs") = .ok (.linked .imported keys) ∧
        (relayFunction "src/k.rs").key ∈ keys ∧ (relayFunction "src/k/mod.rs").key ∉ keys := by
  have hbuild : build [relayFunction "src/k.rs", relayFunction "src/k/mod.rs"] [] relayImports = .ok relayGraph := rfl
  have hsplit : split "a::run" = ["a", "run"] := by decide +kernel
  have hlongest : LongestAlias relayGraph.catalog (split "a::run") ["a"] ["run"] := by
    refine ⟨hsplit, by decide, ⟨"b", by decide +kernel⟩, fun longer hpre hlength => ?_⟩
    -- The only longer start is the whole path.
    obtain rfl : longer = ["a", "run"] := by
      rw [hsplit] at hpre
      exact hpre.eq_of_length_le hlength
    decide +kernel
  have hchain : AliasChain relayGraph.catalog (join ["a"]) relayNames.tail "k" :=
    ⟨by decide +kernel, by decide, by decide, by decide +kernel, by decide +kernel, by decide +kernel⟩
  have hend : join (split "k" ++ ["run"]) = "k::run" := by decide +kernel
  obtain ⟨hfollowed, -⟩ := alias_chain_followed relayGraph "a::run"
  obtain ⟨hfollow, hcalls⟩ := hfollowed _ _ _ _ hlongest hchain
  rw [hend] at hfollow
  simp only [hend] at hcalls
  have habsent : ∀ s ∈ relayGraph.catalog.symbols, s.fullPath ≠ "a::run" := by decide +kernel
  have hpresent : ∃ s ∈ relayGraph.catalog.symbols, s.fullPath = "k::run" := by decide +kernel
  obtain ⟨keys, hresolve, -, hkeys⟩ := hcalls (relayCall "src/main.rs") (by decide) rfl habsent hpresent
  obtain ⟨keys', hresolve', -, hkeys'⟩ := hcalls (relayCall "src/k.rs") (by decide) rfl habsent hpresent
  refine ⟨hbuild, hlongest, hchain, hfollow, ⟨keys, hresolve, ?_, ?_⟩, keys', hresolve', ?_, ?_⟩
  · exact (hkeys _).mpr (by decide +kernel)
  · exact (hkeys _).mpr (by decide +kernel)
  · exact (hkeys' _).mpr (by decide +kernel)
  · exact fun hmem => absurd ((hkeys' _).mp hmem) (by decide +kernel)

end Deadwood.CallGraph
