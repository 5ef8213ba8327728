/-
What a resolved call may lead to, and why.

`Resolves catalog call` is the inversion of `Catalog.resolve`: one constructor for
each rule, with what the rules before it did not find.  Everything else is read
off it, without opening `resolve` again:

* **`resolves_of_resolve`** — every resolution comes from one of the rules;
* **`resolve_eq_error_iff`** — there is none only for a call whose written path has no segment and
  whose resolved path leads nowhere (`Stuck`);
* **`Resolves.nodup`**, **`Resolves.mem_keys`** — the targets are distinct
  functions of the catalog;
* **`Resolves.justified`** — each target is there for one of four reasons;
* **`Resolves.unresolved_name`**, **`Resolves.external_path`** — what it means that
  there is none;
* **`Resolves.eq_of_declared`** — a path that the caller's file declares is final.

The rule by tail compares two segments through their common text.  That the
segments themselves agree is `eq_of_join_eq`: they come from `split`.
-/
import Deadwood.CallGraph.Basic
import Deadwood.Proofs.Catalog
import Deadwood.Proofs.Segments

namespace Deadwood.Catalog

open ModulePath (split join)

variable {catalog : Catalog} {call : CallSite} {key : Key}

/-! ### Functions by their name -/

/-- Those of some keys whose function satisfies a test, or all of them if none does. -/
def prefer (catalog : Catalog) (test : Symbol → Bool) (keys : List Key) : List Key :=
  match keys.filter fun key => (catalog.symbol? key).any test with
  | [] => keys
  | chosen => chosen

/-- The functions that a call may reach by its name: methods first for a method call, others first for a plain call. -/
def candidates (catalog : Catalog) (call : CallSite) : List Key :=
  if call.isMethodCall then catalog.prefer (·.isMethod) (catalog.withName call.callee)
  else if call.path.isNone then catalog.prefer (!·.isMethod) (catalog.withName call.callee)
  else catalog.withName call.callee

/-- Where the name of a call leads by itself. -/
def resolveByName (catalog : Catalog) (call : CallSite) : Resolution :=
  linkByName call (catalog.candidates call)

theorem lookUp_of_mem {s : Symbol} (hs : s ∈ catalog.symbols) : catalog.lookUp s.key = .ok s := by
  rw [lookUp, symbol?_of_mem hs]

theorem mapM_tested (test : Symbol → Bool) {keys : List Key} (hsub : keys ⊆ catalog.keys) :
    (keys.mapM fun key => (catalog.lookUp key).map fun s => (key, test s)) =
      .ok (keys.map fun key => (key, (catalog.symbol? key).any test)) := by
  induction keys with
  | nil => rfl
  | cons key rest ih =>
    obtain ⟨hkey, hrest⟩ := List.cons_subset.mp hsub
    obtain ⟨s, hs, rfl⟩ := mem_keys.mp hkey
    rw [List.mapM_cons, lookUp_of_mem hs, ih hrest, List.map_cons, symbol?_of_mem hs]
    rfl

/-- A choice among keys of the catalog looks up functions that are there. -/
theorem choose_eq (test : Symbol → Bool) {keys : List Key} (hsub : keys ⊆ catalog.keys) :
    catalog.choose test keys = .ok (catalog.prefer test keys) := by
  have htested : ((keys.map fun key => (key, (catalog.symbol? key).any test)).filter (·.2)).map (·.1) =
      keys.filter fun key => (catalog.symbol? key).any test := by
    rw [List.filter_map, List.map_map]
    exact List.map_id _
  rw [choose, mapM_tested test hsub, prefer]
  simp only [bind, Except.bind, htested]
  cases keys.filter fun key => (catalog.symbol? key).any test <;> rfl

theorem withName_subset (catalog : Catalog) (name : String) : catalog.withName name ⊆ catalog.keys := by
  intro key hkey
  obtain ⟨s, hs, hkey, -⟩ := mem_withName.mp hkey
  exact mem_keys.mpr ⟨s, hs, hkey⟩

theorem named_eq (catalog : Catalog) (call : CallSite) : catalog.named call = .ok (catalog.candidates call) := by
  rw [named, candidates]
  simp only [choose_eq _ (catalog.withName_subset call.callee)]
  split
  · rfl
  · split <;> rfl

/-- By its name a call is always resolved. -/
theorem map_linkByName (catalog : Catalog) (call : CallSite) :
    (catalog.named call).map (linkByName call) = .ok (catalog.resolveByName call) := by
  rw [named_eq]
  rfl

/-! ### Preferences -/

/-- A preference for some keys chooses among all of them. -/
theorem preference_sublist {chosen keys : List Key} : chosen.Sublist keys →
    (match chosen with | [] => keys | chosen => chosen).Sublist keys := by
  intro hsub
  cases chosen with
  | nil => exact List.Sublist.refl _
  | cons key rest => exact hsub

/-- It leaves nothing only if there was nothing. -/
theorem preference_eq_nil {chosen keys : List Key} : chosen.Sublist keys →
    ((match chosen with | [] => keys | chosen => chosen) = [] ↔ keys = []) := by
  intro hsub
  cases chosen with
  | nil => exact Iff.rfl
  | cons key rest =>
    refine ⟨fun h => absurd h (List.cons_ne_nil _ _), ?_⟩
    rintro rfl
    exact absurd (List.sublist_nil.mp hsub) (List.cons_ne_nil _ _)

theorem preferFile_sublist (file : String) (keys : List Key) : (preferFile file keys).Sublist keys :=
  preference_sublist List.filter_sublist

theorem prefer_sublist (catalog : Catalog) (test : Symbol → Bool) (keys : List Key) :
    (catalog.prefer test keys).Sublist keys :=
  preference_sublist List.filter_sublist

theorem prefer_eq_nil {test : Symbol → Bool} {keys : List Key} : catalog.prefer test keys = [] ↔ keys = [] :=
  preference_eq_nil List.filter_sublist

theorem exact_eq_nil {path file : String} : catalog.exact path file = [] ↔ catalog.withPath path = [] :=
  preference_eq_nil List.filter_sublist

theorem candidates_sublist (catalog : Catalog) (call : CallSite) :
    (catalog.candidates call).Sublist (catalog.withName call.callee) := by
  rw [candidates]
  split
  · exact prefer_sublist ..
  · split
    · exact prefer_sublist ..
    · exact List.Sublist.refl _

theorem candidates_eq_nil : catalog.candidates call = [] ↔ catalog.withName call.callee = [] := by
  rw [candidates]
  split
  · exact prefer_eq_nil
  · split
    · exact prefer_eq_nil
    · exact Iff.rfl

/-! ### Functions nested in the caller -/

/-- A function nested in one of the functions around a plain call, under the name that is called. -/
def Nested (catalog : Catalog) (call : CallSite) (key : Key) : Prop :=
  call.path = none ∧ call.isMethodCall = false ∧ ModulePath.isModuleBody call.enclosing = false ∧
    ∃ scope, scope ≠ [] ∧ scope <+: split call.enclosing ∧ ⟨call.file, join scope⟩ ∈ catalog.keys ∧
      key = ⟨call.file, join (scope ++ [call.callee])⟩ ∧ ∃ s, catalog.symbol? key = some s ∧ s.isMethod = false

theorem mem_starts {segments scope : List String} :
    scope ∈ starts segments ↔ scope ≠ [] ∧ scope <+: segments := by
  rw [starts, List.mem_reverse, List.mem_map]
  constructor
  · rintro ⟨i, hi, rfl⟩
    rw [List.mem_range] at hi
    refine ⟨fun h => ?_, List.take_prefix _ _⟩
    have hlen := congrArg List.length h
    rw [List.length_take, List.length_nil] at hlen
    omega
  · rintro ⟨hne, hpre⟩
    -- The start of length `n` is the one at index `n - 1`.
    have hpos := List.length_pos_iff.mpr hne
    refine ⟨scope.length - 1, List.mem_range.mpr ?_, ?_⟩
    · have hle := hpre.length_le
      omega
    · rw [Nat.sub_add_cancel hpos, ← List.prefix_iff_eq_take.mp hpre]

theorem pairwise_starts (segments : List String) :
    (starts segments).Pairwise fun a b => b.length < a.length := by
  rw [starts, List.pairwise_reverse, List.pairwise_map]
  refine List.pairwise_lt_range.imp_of_mem fun {i j} _ hj hij => ?_
  rw [List.mem_range] at hj
  rw [List.length_take, List.length_take]
  omega

/-- The starts that come before a given one are longer than it. -/
theorem exists_longer_starts {segments scope : List String} (hne : scope ≠ []) (hpre : scope <+: segments) :
    ∃ longer shorter, starts segments = longer ++ scope :: shorter ∧
      ∀ inner ∈ longer, inner <+: segments ∧ scope.length < inner.length := by
  obtain ⟨longer, shorter, hstarts⟩ := List.append_of_mem (mem_starts.mpr ⟨hne, hpre⟩)
  have hpairwise := pairwise_starts segments
  rw [hstarts, List.pairwise_append] at hpairwise
  refine ⟨longer, shorter, hstarts, fun inner hinner => ?_⟩
  exact ⟨(mem_starts.mp (hstarts ▸ List.mem_append_left _ hinner)).2,
    hpairwise.2.2 inner hinner scope List.mem_cons_self⟩

theorem nested_of_lexical? (h : catalog.lexical? call = some key) : catalog.Nested call key := by
  rw [lexical?] at h
  split at h
  · exact absurd h (by simp)
  · rename_i hplain
    simp only [Bool.or_eq_true, not_or, Bool.not_eq_true, Option.isSome_eq_false_iff, Option.isNone_iff_eq_none]
      at hplain
    obtain ⟨⟨hpath, hmethod⟩, hbody⟩ := hplain
    obtain ⟨scope, hscope, hfound⟩ := List.exists_of_findSome?_eq_some h
    obtain ⟨hne, hpre⟩ := mem_starts.mp hscope
    refine ⟨hpath, hmethod, hbody, scope, hne, hpre, ?_⟩
    split at hfound
    · rename_i houter
      dsimp only at hfound
      split at hfound
      · rename_i hfree
        obtain rfl := Option.some.inj hfound
        obtain ⟨s, hs, hnot⟩ := (Option.any_eq_true ..).mp hfree
        exact ⟨contains_iff.mp houter, rfl, s, hs, by simpa using hnot⟩
      · exact absurd hfound (by simp)
    · exact absurd hfound (by simp)

theorem lexical?_ne_none_of_nested (h : catalog.Nested call key) : catalog.lexical? call ≠ none := by
  obtain ⟨hpath, hmethod, hbody, scope, hne, hpre, houter, rfl, s, hs, hfree⟩ := h
  rw [lexical?, hpath, hmethod, hbody]
  intro hnone
  have hscope := List.findSome?_eq_none_iff.mp hnone scope (mem_starts.mpr ⟨hne, hpre⟩)
  dsimp only at hscope
  rw [if_pos (contains_iff.mpr houter), hs] at hscope
  simp [hfree] at hscope

/-- The search for a nested function fails only if there is none. -/
theorem lexical?_eq_none_iff : catalog.lexical? call = none ↔ ∀ key, ¬ catalog.Nested call key := by
  constructor
  · exact fun hnone key hnested => lexical?_ne_none_of_nested hnested hnone
  · intro h
    cases hlex : catalog.lexical? call with
    | none => rfl
    | some key => exact absurd (nested_of_lexical? hlex) (h key)

/-! ### Tails -/

theorem exists_last_two {segments : List String} (h : 2 ≤ segments.length) :
    ∃ owner name, segments.drop (segments.length - 2) = [owner, name] := by
  refine List.length_eq_two.mp ?_
  rw [List.length_drop]
  omega

theorem exists_of_tail? {path tail : String} (h : tail? path = some tail) :
    ∃ owner name, [owner, name] <:+ split path ∧ tail = join [owner, name] := by
  rw [tail?] at h
  split at h
  · exact absurd h (by simp)
  · rename_i hlen
    obtain ⟨owner, name, hdrop⟩ := exists_last_two (not_lt.mp hlen)
    refine ⟨owner, name, hdrop ▸ List.drop_suffix _ _, ?_⟩
    rw [← hdrop]
    exact (Option.some.inj h).symm

/-- The segments of a written path that name a place, without `crate`, `self`, `super` and `Self`. -/
def ownSegments (written : String) : List String :=
  (split written).filter fun segment => !relativeHeads.contains segment

/-- Two segments of paths with the same text are the same segments. -/
theorem last_two_eq {segments segments' : List String} {path path' owner name owner' name' : String}
    (hsub : segments.Sublist (split path)) (hsub' : segments'.Sublist (split path'))
    (h : [owner, name] <:+ segments) (h' : [owner', name'] <:+ segments')
    (hjoin : join [owner, name] = join [owner', name']) : [owner, name] = [owner', name'] := by
  have hs := h.sublist.trans hsub
  have hs' := h'.sublist.trans hsub'
  refine ModulePath.eq_of_join_eq ?_ ?_ ?_ ?_ hjoin
  · exact fun x hx => ModulePath.ne_empty_of_mem_split (hs.subset hx)
  · exact fun x hx => ModulePath.ne_empty_of_mem_split (hs'.subset hx)
  · exact (ModulePath.separable_split path).sublist (hs.map _)
  · exact (ModulePath.separable_split path').sublist (hs'.map _)

/-- A path ends in the last two segments of a written one that name a place. -/
def SharesTail (written path : String) : Prop :=
  ∃ owner name, [owner, name] <:+ split path ∧ [owner, name] <:+ ownSegments written

theorem sharesTail_of_mem_byTail {written file : String} (h : key ∈ catalog.byTail written file) :
    ∃ s ∈ catalog.symbols, s.key = key ∧ SharesTail written s.fullPath := by
  rw [byTail, ← ownSegments] at h
  split at h
  · rename_i hlen
    have hlen2 : 2 ≤ (ownSegments written).length := by
      rw [beq_iff_eq, List.length_drop] at hlen
      omega
    obtain ⟨owner, name, hdrop⟩ := exists_last_two hlen2
    rw [hdrop] at h
    obtain ⟨s, hs, hkey, htail⟩ := mem_withTail.mp ((preferFile_sublist _ _).subset h)
    obtain ⟨owner', name', hsuffix, hjoin⟩ := exists_of_tail? htail
    have hwritten : [owner, name] <:+ ownSegments written := hdrop ▸ List.drop_suffix _ _
    have heq := last_two_eq List.filter_sublist (List.Sublist.refl _) hwritten hsuffix hjoin
    exact ⟨s, hs, hkey, owner, name, heq ▸ hsuffix, hwritten⟩
  · exact absurd h List.not_mem_nil

/-! ### The rules -/

/-- The path that a call is resolved by, if it has one. -/
def HasPath (call : CallSite) (path : String) : Prop :=
  call.resolved = some path ∧ path ≠ ""

/-- No function has a path, neither as it is nor as imports lead on from it. -/
def Unknown (catalog : Catalog) (path : String) : Prop :=
  catalog.withPath path = [] ∧ catalog.withPath (catalog.followAlias path) = []

/-- A path that begins outside of the project. -/
def BeginsOutside (path : String) : Prop :=
  ∃ root ∈ externalRoots, (split path).head? = some root

/-- Where a call leads, by the rule that decides; what the rules before it look for is not there. -/
inductive Resolves (catalog : Catalog) (call : CallSite) : Resolution → Prop where
  | lexical {key : Key} (found : catalog.lexical? call = some key) :
      Resolves catalog call (.linked .lexical [key])
  | exact {path : String} (outer : catalog.lexical? call = none) (resolved : HasPath call path)
      (found : catalog.exact path call.file ≠ []) :
      Resolves catalog call (.linked .exact (catalog.exact path call.file))
  | imported {path : String} (outer : catalog.lexical? call = none) (resolved : HasPath call path)
      (absent : catalog.withPath path = []) (found : catalog.exact (catalog.followAlias path) call.file ≠ []) :
      Resolves catalog call (.linked .imported (catalog.exact (catalog.followAlias path) call.file))
  | external {path written : String} (outer : catalog.lexical? call = none) (resolved : HasPath call path)
      (unknown : catalog.Unknown path) (qualified : call.path = some written)
      (outside : BeginsOutside written ∨ BeginsOutside (catalog.followAlias path)) :
      Resolves catalog call .external
  | tail {path written : String} (outer : catalog.lexical? call = none) (resolved : HasPath call path)
      (unknown : catalog.Unknown path) (qualified : call.path = some written)
      (found : catalog.byTail written call.file ≠ []) :
      Resolves catalog call (.linked .tail (catalog.byTail written call.file))
  | onlyInFile {key : Key} (outer : catalog.lexical? call = none)
      (unknown : ∀ path, HasPath call path → catalog.Unknown path)
      (found : (catalog.candidates call).filter (·.file == call.file) = [key]) :
      Resolves catalog call (.linked .onlyInFile [key])
  | byName (outer : catalog.lexical? call = none)
      (unknown : ∀ path, HasPath call path → catalog.Unknown path) (found : catalog.candidates call ≠ []) :
      Resolves catalog call (.linked .byName (catalog.candidates call))
  | unresolved (outer : catalog.lexical? call = none)
      (unknown : ∀ path, HasPath call path → catalog.Unknown path) (absent : catalog.candidates call = []) :
      Resolves catalog call .unresolved

theorem resolves_resolveByName (outer : catalog.lexical? call = none)
    (unknown : ∀ path, HasPath call path → catalog.Unknown path) :
    Resolves catalog call (catalog.resolveByName call) := by
  unfold resolveByName linkByName
  split
  · rename_i hnil
    exact .unresolved outer unknown hnil
  · rename_i hne
    split
    · rename_i key hone
      exact .onlyInFile outer unknown hone
    · exact .byName outer unknown hne

theorem beginsOutside_iff {path : String} :
    BeginsOutside path ↔ (split path).head?.any externalRoots.contains = true := by
  rw [Option.any_eq_true]
  constructor
  · rintro ⟨root, hroot, hhead⟩
    exact ⟨root, hhead, List.contains_iff_mem.mpr hroot⟩
  · rintro ⟨root, hhead, hmem⟩
    exact ⟨root, List.contains_iff_mem.mp hmem, hhead⟩

/-- A path that imports do not lead on from is not looked up again. -/
theorem unknown_iff {path : String} (file : String) :
    catalog.Unknown path ↔ catalog.exact path file = [] ∧
      (if catalog.followAlias path == path then [] else catalog.exact (catalog.followAlias path) file) = [] := by
  rw [Unknown, exact_eq_nil]
  by_cases hsame : catalog.followAlias path = path
  · simp [hsame]
  · rw [if_neg fun hc => hsame (beq_iff_eq.mp hc), exact_eq_nil]

theorem resolves_of_resolveWritten? {path written : String} {r : Resolution}
    (outer : catalog.lexical? call = none) (resolved : HasPath call path) (unknown : catalog.Unknown path)
    (qualified : call.path = some written)
    (h : catalog.resolveWritten? call written (catalog.followAlias path) = .ok (some r)) :
    Resolves catalog call r := by
  rw [resolveWritten?] at h
  split at h
  · rename_i hout
    obtain rfl : Resolution.external = r := by simpa using h
    exact .external outer resolved unknown qualified (Or.inr (beginsOutside_iff.mpr hout))
  · split at h
    · exact absurd h (by simp)
    · rename_i head rest hsplit
      split at h
      · rename_i hout
        obtain rfl : Resolution.external = r := by simpa using h
        have hhead : (split written).head? = some head := by rw [hsplit]; rfl
        exact .external outer resolved unknown qualified
          (Or.inl ⟨head, List.contains_iff_mem.mp hout, hhead⟩)
      · split at h
        · exact absurd h (by simp)
        · rename_i hne
          obtain rfl : Resolution.linked .tail (catalog.byTail written call.file) = r := by simpa using h
          exact .tail outer resolved unknown qualified hne

/-- What a resolved path leads to: a resolution by one of the rules, or nothing, and then no function has it. -/
theorem resolves_of_resolveByPath? {path : String} {found : Option Resolution}
    (outer : catalog.lexical? call = none) (resolved : HasPath call path)
    (h : catalog.resolveByPath? call path = .ok found) :
    match found with
    | some r => Resolves catalog call r
    | none => catalog.Unknown path := by
  rw [resolveByPath?] at h
  split at h
  · rename_i key keys hexact
    obtain rfl := Except.ok.inj h
    show Resolves catalog call (.linked .exact (key :: keys))
    rw [← hexact]
    exact .exact outer resolved (by rw [hexact]; exact List.cons_ne_nil _ _)
  · rename_i hexact
    have habsent : catalog.withPath path = [] := exact_eq_nil.mp hexact
    dsimp only at h
    split at h
    · rename_i key keys himported
      obtain rfl := Except.ok.inj h
      by_cases hsame : catalog.followAlias path = path
      · rw [if_pos (beq_iff_eq.mpr hsame)] at himported
        exact absurd himported (by simp)
      · rw [if_neg fun hc => hsame (beq_iff_eq.mp hc)] at himported
        show Resolves catalog call (.linked .imported (key :: keys))
        rw [← himported]
        exact .imported outer resolved habsent (by rw [himported]; exact List.cons_ne_nil _ _)
    · rename_i himported
      have hunknown : catalog.Unknown path := (unknown_iff call.file).mpr ⟨hexact, himported⟩
      split at h
      · obtain rfl := Except.ok.inj h
        exact hunknown
      · rename_i written qualified
        cases found with
        | none => exact hunknown
        | some r => exact resolves_of_resolveWritten? outer resolved hunknown qualified h

/-- **Every resolution comes from one of the rules.** -/
theorem resolves_of_resolve {r : Resolution} (h : catalog.resolve call = .ok r) : Resolves catalog call r := by
  rw [resolve] at h
  split at h
  · rename_i key hlex
    obtain rfl := Except.ok.inj h
    exact .lexical hlex
  · rename_i outer
    split at h
    · rename_i hnone
      rw [map_linkByName] at h
      obtain rfl := Except.ok.inj h
      refine resolves_resolveByName outer fun path hpath => ?_
      rw [hpath.1, Option.filter_some, if_pos (bne_iff_ne.mpr hpath.2)] at hnone
      exact absurd hnone (by simp)
    · rename_i path hsome
      obtain ⟨hpath, hne⟩ := Option.filter_eq_some_iff.mp hsome
      have resolved : HasPath call path := ⟨hpath, bne_iff_ne.mp hne⟩
      cases hby : catalog.resolveByPath? call path with
      | error e =>
        rw [hby] at h
        exact absurd h (by simp [bind, Except.bind])
      | ok found =>
        rw [hby] at h
        have hfound := resolves_of_resolveByPath? outer resolved hby
        cases found with
        | some r' =>
          obtain rfl : r' = r := by simpa [bind, Except.bind, pure, Except.pure] using h
          exact hfound
        | none =>
          obtain rfl : catalog.resolveByName call = r := by simpa [bind, Except.bind, map_linkByName] using h
          -- The name decides, and the path that was tried is the only one the call has.
          refine resolves_resolveByName outer fun path' hpath' => ?_
          obtain rfl : path = path' := Option.some.inj (hpath.symm.trans hpath'.1)
          exact hfound

/-! ### Calls that no rule settles -/

/-- A call whose written path has no segment, and whose resolved path is that of no function and stays inside. -/
def Stuck (catalog : Catalog) (call : CallSite) : Prop :=
  ∃ written path, call.path = some written ∧ split written = [] ∧ HasPath call path ∧ catalog.Unknown path ∧
    ¬ BeginsOutside (catalog.followAlias path)

theorem resolveWritten?_eq_error_iff {written expanded : String} {e : ResolutionError} :
    catalog.resolveWritten? call written expanded = .error e ↔
      e = .emptyPath ∧ split written = [] ∧ ¬ BeginsOutside expanded := by
  rw [resolveWritten?, beginsOutside_iff]
  split
  · rename_i hout
    simp [hout]
  · rename_i hin
    split
    · rename_i hsplit
      simp [hin, hsplit, eq_comm]
    · rename_i head rest hsplit
      -- A path with a segment leads outside, to functions with its tail, or on to the name.
      have hne : ¬ split written = [] := by
        rw [hsplit]
        exact List.cons_ne_nil _ _
      simp only [hne, false_and, and_false, iff_false]
      split
      · simp
      · split <;> simp

theorem resolveByPath?_eq_error_iff {path : String} {e : ResolutionError} :
    catalog.resolveByPath? call path = .error e ↔ e = .emptyPath ∧
      ∃ written, call.path = some written ∧ split written = [] ∧ catalog.Unknown path ∧
        ¬ BeginsOutside (catalog.followAlias path) := by
  rw [resolveByPath?]
  split
  · rename_i hexact
    have hknown : ¬ catalog.Unknown path := by
      rw [unknown_iff call.file, hexact]
      simp
    simp [hknown]
  · rename_i hexact
    dsimp only
    split
    · rename_i himported
      have hknown : ¬ catalog.Unknown path := by
        rw [unknown_iff call.file, himported]
        simp
      simp [hknown]
    · rename_i himported
      have hunknown : catalog.Unknown path := (unknown_iff call.file).mpr ⟨hexact, himported⟩
      split
      · rename_i hpath
        simp [hpath]
      · rename_i written hpath
        rw [resolveWritten?_eq_error_iff]
        simp [hpath, hunknown]

theorem lexical?_eq_none_of_path {written : String} (h : call.path = some written) : catalog.lexical? call = none := by
  rw [lexical?, h]
  rfl

theorem resolve_eq_error_iff {e : ResolutionError} :
    catalog.resolve call = .error e ↔ e = .emptyPath ∧ catalog.Stuck call := by
  constructor
  · intro h
    rw [resolve] at h
    split at h
    · exact absurd h (by simp)
    · split at h
      · rw [map_linkByName] at h
        exact absurd h (by simp)
      · rename_i path hpath
        obtain ⟨hresolved, hne⟩ := Option.filter_eq_some_iff.mp hpath
        cases hby : catalog.resolveByPath? call path with
        | error e' =>
          rw [hby] at h
          obtain ⟨rfl, written, hwritten, hsplit, hunknown, hinside⟩ := resolveByPath?_eq_error_iff.mp hby
          exact ⟨(Except.error.inj h).symm, written, path, hwritten, hsplit, ⟨hresolved, bne_iff_ne.mp hne⟩, hunknown,
            hinside⟩
        | ok found =>
          rw [hby] at h
          cases found <;> exact absurd h (by simp [bind, Except.bind, pure, Except.pure, map_linkByName])
  · rintro ⟨rfl, written, path, hwritten, hsplit, ⟨hresolved, hne⟩, hunknown, hinside⟩
    have hby : catalog.resolveByPath? call path = .error .emptyPath :=
      resolveByPath?_eq_error_iff.mpr ⟨rfl, written, hwritten, hsplit, hunknown, hinside⟩
    rw [resolve, lexical?_eq_none_of_path hwritten, hresolved, Option.filter_some, if_pos (bne_iff_ne.mpr hne)]
    dsimp only
    rw [hby]
    rfl

/-- A call that is not stuck can be resolved. -/
theorem exists_resolve_iff : (∃ r, catalog.resolve call = .ok r) ↔ ¬ catalog.Stuck call := by
  have hstuck := @resolve_eq_error_iff catalog call
  cases hresolve : catalog.resolve call with
  | ok r =>
    refine iff_of_true ⟨r, rfl⟩ fun h => ?_
    exact absurd (hresolve.symm.trans (hstuck.mpr ⟨rfl, h⟩)) (by simp)
  | error e =>
    refine iff_of_false ?_ (not_not_intro (hstuck.mp hresolve).2)
    rintro ⟨r, h⟩
    cases h

/-! ### What the targets are -/

theorem Resolves.targets_ne_nil {rule : LinkRule} {targets : List Key}
    (h : Resolves catalog call (.linked rule targets)) : targets ≠ [] := by
  cases h with
  | lexical => exact List.cons_ne_nil _ _
  | exact _ _ found => exact found
  | imported _ _ _ found => exact found
  | tail _ _ _ _ found => exact found
  | onlyInFile => exact List.cons_ne_nil _ _
  | byName _ _ found => exact found

theorem byTail_nodup (written file : String) : (catalog.byTail written file).Nodup := by
  rw [byTail]
  split
  · exact (preferFile_sublist _ _).nodup (catalog.nodup_withTail _)
  · exact List.nodup_nil

/-- No function is named twice among the targets. -/
theorem Resolves.nodup {rule : LinkRule} {targets : List Key}
    (h : Resolves catalog call (.linked rule targets)) : targets.Nodup := by
  cases h with
  | lexical => exact List.nodup_singleton _
  | exact => exact (preferFile_sublist _ _).nodup (catalog.nodup_withPath _)
  | imported => exact (preferFile_sublist _ _).nodup (catalog.nodup_withPath _)
  | tail => exact byTail_nodup _ _
  | onlyInFile => exact List.nodup_singleton _
  | byName => exact (candidates_sublist catalog call).nodup (catalog.nodup_withName _)

/-- Why a function may be a target of a call: it has the name that is called, or the path of the call as it is or as
imports lead on, or the tail of the written path, or it is nested in the caller. -/
def Justified (catalog : Catalog) (call : CallSite) (key : Key) : Prop :=
  ∃ s ∈ catalog.symbols, s.key = key ∧
    (s.name = call.callee ∨
      (∃ path, HasPath call path ∧ (s.fullPath = path ∨ s.fullPath = catalog.followAlias path)) ∨
      (∃ written, call.path = some written ∧ SharesTail written s.fullPath) ∨
      catalog.Nested call key)

theorem mem_exact {path file : String} (h : key ∈ catalog.exact path file) :
    ∃ s ∈ catalog.symbols, s.key = key ∧ s.fullPath = path :=
  mem_withPath.mp ((preferFile_sublist _ _).subset h)

theorem justified_of_mem_candidates (h : key ∈ catalog.candidates call) : catalog.Justified call key := by
  obtain ⟨s, hs, hkey, hname⟩ := mem_withName.mp ((candidates_sublist catalog call).subset h)
  exact ⟨s, hs, hkey, Or.inl hname⟩

/-- Every target has a reason. -/
theorem Resolves.justified {rule : LinkRule} {targets : List Key}
    (h : Resolves catalog call (.linked rule targets)) (hkey : key ∈ targets) : catalog.Justified call key := by
  cases h with
  | lexical found =>
    obtain rfl := List.mem_singleton.mp hkey
    have hnested := nested_of_lexical? found
    obtain ⟨-, -, -, -, -, -, -, -, s, hs, -⟩ := id hnested
    obtain ⟨hmem, heq⟩ := mem_of_symbol? hs
    exact ⟨s, hmem, heq, Or.inr (Or.inr (Or.inr hnested))⟩
  | exact _ resolved _ =>
    obtain ⟨s, hs, heq, hpath⟩ := mem_exact hkey
    exact ⟨s, hs, heq, Or.inr (Or.inl ⟨_, resolved, Or.inl hpath⟩)⟩
  | imported _ resolved _ _ =>
    obtain ⟨s, hs, heq, hpath⟩ := mem_exact hkey
    exact ⟨s, hs, heq, Or.inr (Or.inl ⟨_, resolved, Or.inr hpath⟩)⟩
  | tail _ _ _ qualified _ =>
    obtain ⟨s, hs, heq, hshares⟩ := sharesTail_of_mem_byTail hkey
    exact ⟨s, hs, heq, Or.inr (Or.inr (Or.inl ⟨_, qualified, hshares⟩))⟩
  | onlyInFile _ _ found =>
    have hmem : key ∈ (catalog.candidates call).filter (·.file == call.file) := found ▸ hkey
    exact justified_of_mem_candidates (List.mem_of_mem_filter hmem)
  | byName _ _ _ => exact justified_of_mem_candidates hkey

/-- The targets are functions of the catalog. -/
theorem Resolves.mem_keys {rule : LinkRule} {targets : List Key}
    (h : Resolves catalog call (.linked rule targets)) (hkey : key ∈ targets) : key ∈ catalog.keys := by
  obtain ⟨s, hs, heq, -⟩ := h.justified hkey
  exact Catalog.mem_keys.mpr ⟨s, hs, heq⟩

/-- A call stays unresolved only if no function has its name. -/
theorem Resolves.unresolved_name {r : Resolution} (h : Resolves catalog call r) (hr : r.targets? = some []) :
    ∀ s ∈ catalog.symbols, s.name ≠ call.callee := by
  cases r with
  | external => exact absurd hr (by simp [Resolution.targets?])
  | linked rule targets => exact absurd (Option.some.inj hr) h.targets_ne_nil
  | unresolved =>
    cases h with
    | unresolved _ _ absent =>
      intro s hs hname
      have hmem : s.key ∈ catalog.withName call.callee := mem_withName.mpr ⟨s, hs, rfl, hname⟩
      rw [candidates_eq_nil.mp absent] at hmem
      exact absurd hmem List.not_mem_nil

theorem fullPath_ne_of_withPath_eq_nil {path : String} (h : catalog.withPath path = []) {s : Symbol}
    (hs : s ∈ catalog.symbols) : s.fullPath ≠ path := by
  intro hpath
  have hmem : s.key ∈ catalog.withPath path := mem_withPath.mpr ⟨s, hs, rfl, hpath⟩
  rw [h] at hmem
  exact absurd hmem List.not_mem_nil

/-- A call leaves the project only by a path that no function has and that begins outside. -/
theorem Resolves.external_path {r : Resolution} (h : Resolves catalog call r) (hr : r.targets? = none) :
    ∃ written path, call.path = some written ∧ HasPath call path ∧
      (∀ s ∈ catalog.symbols, s.fullPath ≠ path ∧ s.fullPath ≠ catalog.followAlias path) ∧
      (BeginsOutside written ∨ BeginsOutside (catalog.followAlias path)) := by
  cases h with
  | @external path written _ resolved unknown qualified outside =>
    refine ⟨written, path, qualified, resolved, fun s hs => ?_, outside⟩
    exact ⟨fullPath_ne_of_withPath_eq_nil unknown.1 hs, fullPath_ne_of_withPath_eq_nil unknown.2 hs⟩
  | _ => exact absurd hr (by simp [Resolution.targets?])

/-! ### Functions of the caller's file -/

/-- A path that the caller's own file declares means that function. -/
theorem exact_of_mem {path file : String} (h : ⟨file, path⟩ ∈ catalog.keys) :
    catalog.exact path file = [⟨file, path⟩] := by
  have hmem : ∀ key, key ∈ (catalog.withPath path).filter (·.file == file) ↔ key = ⟨file, path⟩ := by
    intro key
    rw [List.mem_filter, mem_withPath, beq_iff_eq]
    constructor
    · rintro ⟨⟨s, -, rfl, rfl⟩, rfl⟩
      rfl
    · rintro rfl
      obtain ⟨s, hs, hkey⟩ := Catalog.mem_keys.mp h
      exact ⟨⟨s, hs, hkey, congrArg Key.path hkey⟩, rfl⟩
  have hone : (catalog.withPath path).filter (·.file == file) = [⟨file, path⟩] := by
    refine List.perm_singleton.mp ((List.perm_ext_iff_of_nodup ?_ (List.nodup_singleton _)).mpr ?_)
    · exact (catalog.nodup_withPath path).filter _
    · intro key
      rw [hmem, List.mem_singleton]
  rw [exact, preferFile, hone]

/-- If nothing is nested in the caller and its file declares the path of the call, the call leads there. -/
theorem Resolves.eq_of_declared {r : Resolution} {path : String}
    (h : Resolves catalog call r) (outer : catalog.lexical? call = none) (resolved : HasPath call path)
    (declared : ⟨call.file, path⟩ ∈ catalog.keys) : r = .linked .exact [⟨call.file, path⟩] := by
  have hexact := exact_of_mem declared
  have hpresent : catalog.withPath path ≠ [] := by
    intro hnil
    rw [exact_eq_nil.mpr hnil] at hexact
    exact absurd hexact (by simp)
  have hsame : ∀ path', HasPath call path' → path' = path :=
    fun path' h' => Option.some.inj (h'.1.symm.trans resolved.1)
  cases h with
  | lexical found => exact absurd (outer.symm.trans found) (by simp)
  | exact _ resolved' _ => rw [hsame _ resolved', hexact]
  | imported _ resolved' absent _ => exact absurd (hsame _ resolved' ▸ absent) hpresent
  | external _ resolved' unknown _ _ => exact absurd (hsame _ resolved' ▸ unknown.1) hpresent
  | tail _ resolved' unknown _ _ => exact absurd (hsame _ resolved' ▸ unknown.1) hpresent
  | onlyInFile _ unknown _ => exact absurd (unknown path resolved).1 hpresent
  | byName _ unknown _ => exact absurd (unknown path resolved).1 hpresent
  | unresolved _ unknown _ => exact absurd (unknown path resolved).1 hpresent

end Deadwood.Catalog
