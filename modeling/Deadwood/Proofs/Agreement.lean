/-
Resolving a call in two catalogs that differ in order only.

The indexes of a catalog list functions in the order in which they were declared.
`Catalog.Agree` relates catalogs with the same functions, in whatever order, and
the same aliases.  Each stage of the resolution is followed in both at once:

* a stage that finds one thing finds the same (`symbol?_eq`, `lexical?_eq`,
  `followAlias_eq`);
* a stage that lists functions lists the same ones (`exact_perm`, `byTail_perm`,
  `candidates_perm`);
* **`resolve_lockstep`** — hence the two resolutions fail together, or go by the
  same rule to the same functions;
* **`leads_iff`** — a call leads to a function in both or in neither.
-/
import Deadwood.Proofs.Linking

namespace Deadwood

/-- Two computations that fail with the same error, or give related results. -/
inductive Lockstep {ε α β : Type} (related : α → β → Prop) : Except ε α → Except ε β → Prop where
  | error (e : ε) : Lockstep related (.error e) (.error e)
  | ok {a : α} {b : β} (h : related a b) : Lockstep related (.ok a) (.ok b)

theorem Lockstep.bind {ε α β γ δ : Type} {related : α → β → Prop} {related' : γ → δ → Prop} {x : Except ε α}
    {y : Except ε β} {f : α → Except ε γ} {g : β → Except ε δ} (h : Lockstep related x y)
    (hnext : ∀ a b, related a b → Lockstep related' (f a) (g b)) : Lockstep related' (x >>= f) (y >>= g) := by
  cases h with
  | error e => exact .error e
  | ok hab => exact hnext _ _ hab

theorem Lockstep.of_ok {ε α β : Type} {related : α → β → Prop} {a : α} {y : Except ε β}
    (h : Lockstep related (.ok a) y) : ∃ b, y = .ok b ∧ related a b := by
  cases h with
  | ok hab => exact ⟨_, rfl, hab⟩

/-- Two resolutions by the same rule to the same functions. -/
inductive Resolution.Alike : Resolution → Resolution → Prop where
  | external : Alike .external .external
  | unresolved : Alike .unresolved .unresolved
  | linked (rule : LinkRule) {targets targets' : List Key} (h : targets.Perm targets') :
      Alike (.linked rule targets) (.linked rule targets')

namespace Catalog

open ModulePath (split join)

variable {catalog catalog' : Catalog} {call : CallSite}

/-! ### Lists in another order -/

theorem perm_nil_or_cons {keys keys' : List Key} (h : keys.Perm keys') :
    keys = [] ∧ keys' = [] ∨ ∃ key rest key' rest', keys = key :: rest ∧ keys' = key' :: rest' := by
  cases keys with
  | nil => exact Or.inl ⟨rfl, h.nil_eq.symm⟩
  | cons key rest =>
    cases keys' with
    | nil => exact absurd h.eq_nil (List.cons_ne_nil _ _)
    | cons key' rest' => exact Or.inr ⟨key, rest, key', rest', rfl, rfl⟩

/-- A preference for some keys over all of them does not look at their order. -/
theorem preference_perm {chosen chosen' keys keys' : List Key} : chosen.Perm chosen' → keys.Perm keys' →
    (match chosen with | [] => keys | chosen => chosen).Perm
      (match chosen' with | [] => keys' | chosen => chosen) := by
  intro hchosen hkeys
  rcases perm_nil_or_cons hchosen with ⟨rfl, rfl⟩ | ⟨key, rest, key', rest', rfl, rfl⟩
  · exact hkeys
  · exact hchosen

theorem preferFile_perm (file : String) {keys keys' : List Key} (h : keys.Perm keys') :
    (preferFile file keys).Perm (preferFile file keys') :=
  preference_perm (h.filter _) h

/-! ### Catalogs in another order -/

/-- Two catalogs with the same functions in any order, and the same aliases. -/
structure Agree (catalog catalog' : Catalog) : Prop where
  symbols : catalog.symbols.Perm catalog'.symbols
  aliases : ∀ path, catalog.aliases.get? path = catalog'.aliases.get? path

namespace Agree

theorem mem_keys_iff (h : Agree catalog catalog') {key : Key} : key ∈ catalog.keys ↔ key ∈ catalog'.keys :=
  (h.symbols.map (·.key)).mem_iff

theorem contains_eq (h : Agree catalog catalog') : catalog.contains = catalog'.contains := by
  funext key
  rw [Bool.eq_iff_iff, contains_iff, contains_iff, h.mem_keys_iff]

theorem symbol?_eq (h : Agree catalog catalog') : catalog.symbol? = catalog'.symbol? := by
  funext key
  refine Option.ext fun s => ?_
  rw [symbol?_eq_some_iff, symbol?_eq_some_iff, h.symbols.mem_iff]

theorem lexical?_eq (h : Agree catalog catalog') : catalog.lexical? call = catalog'.lexical? call := by
  rw [lexical?, lexical?, h.contains_eq, h.symbol?_eq]

theorem chase_eq (h : Agree catalog catalog') : catalog.chase = catalog'.chase := by
  funext hops
  induction hops with
  | zero => rfl
  | succ hops ih =>
    funext path
    rw [chase, chase, h.aliases path, ih]

theorem followAlias_eq (h : Agree catalog catalog') : catalog.followAlias = catalog'.followAlias := by
  funext path
  rw [followAlias, followAlias, h.chase_eq]

theorem listed_perm (h : Agree catalog catalog') (label : Symbol → Option String) (name : String) :
    (Index.listed label catalog.symbols name).Perm (Index.listed label catalog'.symbols name) :=
  (h.symbols.filter _).map _

theorem exact_perm (h : Agree catalog catalog') (path file : String) :
    (catalog.exact path file).Perm (catalog'.exact path file) := by
  rw [exact, exact, withPath_eq, withPath_eq]
  exact preferFile_perm file (h.listed_perm _ path)

theorem byTail_perm (h : Agree catalog catalog') (written file : String) :
    (catalog.byTail written file).Perm (catalog'.byTail written file) := by
  rw [byTail, byTail]
  split
  · rw [withTail_eq, withTail_eq]
    exact preferFile_perm file (h.listed_perm _ _)
  · exact List.Perm.refl _

theorem prefer_perm (h : Agree catalog catalog') (test : Symbol → Bool) {keys keys' : List Key}
    (hkeys : keys.Perm keys') : (catalog.prefer test keys).Perm (catalog'.prefer test keys') := by
  rw [prefer, prefer, h.symbol?_eq]
  exact preference_perm (hkeys.filter _) hkeys

theorem candidates_perm (h : Agree catalog catalog') (call : CallSite) :
    (catalog.candidates call).Perm (catalog'.candidates call) := by
  have hnamed : (catalog.withName call.callee).Perm (catalog'.withName call.callee) := by
    rw [withName_eq, withName_eq]
    exact h.listed_perm _ _
  rw [candidates, candidates]
  split
  · exact h.prefer_perm _ hnamed
  · split
    · exact h.prefer_perm _ hnamed
    · exact hnamed

end Agree

/-! ### The stages of a resolution -/

theorem resolveByName_of_none (h : catalog.candidates call = []) : catalog.resolveByName call = .unresolved := by
  rw [resolveByName, h]
  rfl

theorem resolveByName_of_one {key : Key} (h : (catalog.candidates call).filter (·.file == call.file) = [key]) :
    catalog.resolveByName call = .linked .onlyInFile [key] := by
  unfold resolveByName linkByName
  split
  · rename_i hnil
    rw [hnil] at h
    exact absurd h (by simp)
  · rw [h]

theorem resolveByName_of_many (hne : catalog.candidates call ≠ [])
    (h : ∀ key, (catalog.candidates call).filter (·.file == call.file) ≠ [key]) :
    catalog.resolveByName call = .linked .byName (catalog.candidates call) := by
  unfold resolveByName linkByName
  split
  · rename_i hnil
    exact absurd hnil hne
  · split
    · rename_i key hone
      exact absurd hone (h key)
    · rfl

namespace Agree

theorem resolveByName_alike (h : Agree catalog catalog') (call : CallSite) :
    (catalog.resolveByName call).Alike (catalog'.resolveByName call) := by
  have hperm := h.candidates_perm call
  have hfile := hperm.filter (·.file == call.file)
  by_cases hnil : catalog.candidates call = []
  · have hnil' : catalog'.candidates call = [] := (hnil ▸ hperm).nil_eq.symm
    rw [resolveByName_of_none hnil, resolveByName_of_none hnil']
    exact .unresolved
  by_cases hone : ∃ key, (catalog.candidates call).filter (·.file == call.file) = [key]
  · obtain ⟨key, hone⟩ := hone
    rw [resolveByName_of_one hone, resolveByName_of_one (List.singleton_perm.mp (hone ▸ hfile)).symm]
    exact .linked _ (List.Perm.refl _)
  · -- Neither list is empty, and neither has one key in the caller's file.
    have hnil' : catalog'.candidates call ≠ [] := fun heq => hnil (heq ▸ hperm).eq_nil
    have hmany : ∀ key, (catalog'.candidates call).filter (·.file == call.file) ≠ [key] :=
      fun key heq => hone ⟨key, List.perm_singleton.mp (heq ▸ hfile)⟩
    rw [resolveByName_of_many hnil (not_exists.mp hone), resolveByName_of_many hnil' hmany]
    exact .linked _ hperm

theorem resolveWritten?_lockstep (h : Agree catalog catalog') (call : CallSite) (written expanded : String) :
    Lockstep (Option.Rel Resolution.Alike) (catalog.resolveWritten? call written expanded)
      (catalog'.resolveWritten? call written expanded) := by
  rw [resolveWritten?, resolveWritten?]
  split
  · exact .ok (.some .external)
  · split
    · exact .error _
    · split
      · exact .ok (.some .external)
      · have hperm := h.byTail_perm written call.file
        rcases perm_nil_or_cons hperm with ⟨hnil, hnil'⟩ | ⟨key, rest, key', rest', hcons, hcons'⟩
        · rw [hnil, hnil']
          exact .ok .none
        · rw [hcons, hcons'] at hperm ⊢
          exact .ok (.some (.linked _ hperm))

theorem resolveByPath?_lockstep (h : Agree catalog catalog') (call : CallSite) (path : String) :
    Lockstep (Option.Rel Resolution.Alike) (catalog.resolveByPath? call path)
      (catalog'.resolveByPath? call path) := by
  rw [resolveByPath?, resolveByPath?, h.followAlias_eq]
  have hperm := h.exact_perm path call.file
  rcases perm_nil_or_cons hperm with ⟨hnil, hnil'⟩ | ⟨key, rest, key', rest', hcons, hcons'⟩
  · -- Nothing has the path itself, so both go on to the path that imports lead to.
    rw [hnil, hnil']
    dsimp only
    have himported : (if catalog'.followAlias path == path then []
        else catalog.exact (catalog'.followAlias path) call.file).Perm
        (if catalog'.followAlias path == path then [] else catalog'.exact (catalog'.followAlias path) call.file) := by
      split
      · exact List.Perm.refl _
      · exact h.exact_perm _ _
    rcases perm_nil_or_cons himported with ⟨hnil, hnil'⟩ | ⟨key, rest, key', rest', hcons, hcons'⟩
    · rw [hnil, hnil']
      dsimp only
      split
      · exact .ok .none
      · exact h.resolveWritten?_lockstep call _ _
    · rw [hcons, hcons'] at himported ⊢
      exact .ok (.some (.linked _ himported))
  · rw [hcons, hcons'] at hperm ⊢
    exact .ok (.some (.linked _ hperm))

/-- **Catalogs that agree resolve a call alike.** -/
theorem resolve_lockstep (h : Agree catalog catalog') (call : CallSite) :
    Lockstep Resolution.Alike (catalog.resolve call) (catalog'.resolve call) := by
  rw [resolve, resolve, h.lexical?_eq]
  split
  · exact .ok (.linked _ (List.Perm.refl _))
  · split
    · rw [map_linkByName, map_linkByName]
      exact .ok (h.resolveByName_alike call)
    · refine (h.resolveByPath?_lockstep call _).bind fun found found' hfound => ?_
      cases hfound with
      | some halike => exact .ok halike
      | none =>
        dsimp only
        rw [map_linkByName, map_linkByName]
        exact .ok (h.resolveByName_alike call)

theorem resolve_of (h : Agree catalog catalog') {r : Resolution} (hr : catalog.resolve call = .ok r) :
    ∃ r', catalog'.resolve call = .ok r' ∧ r.Alike r' :=
  Lockstep.of_ok (hr ▸ h.resolve_lockstep call)

theorem symm (h : Agree catalog catalog') : Agree catalog' catalog :=
  ⟨h.symbols.symm, fun path => (h.aliases path).symm⟩

theorem leads_of (h : Agree catalog catalog') {key : Key} (hleads : catalog.Leads call key) :
    catalog'.Leads call key := by
  obtain ⟨r, targets, hr, htargets, hkey⟩ := hleads
  obtain ⟨r', hr', halike⟩ := h.resolve_of hr
  cases halike with
  | external => exact absurd htargets (by simp [Resolution.targets?])
  | unresolved => exact ⟨_, targets, hr', htargets, hkey⟩
  | @linked rule found found' hperm =>
    obtain rfl : found = targets := Option.some.inj htargets
    exact ⟨_, found', hr', rfl, hperm.mem_iff.mp hkey⟩

/-- A call leads to the same functions in catalogs that agree. -/
theorem leads_iff (h : Agree catalog catalog') {key : Key} : catalog.Leads call key ↔ catalog'.Leads call key :=
  ⟨h.leads_of, h.symm.leads_of⟩

theorem unresolved_of (h : Agree catalog catalog') (hr : catalog.resolve call = .ok .unresolved) :
    catalog'.resolve call = .ok .unresolved := by
  obtain ⟨r', hr', halike⟩ := h.resolve_of hr
  cases halike with
  | unresolved => exact hr'

theorem unresolved_iff (h : Agree catalog catalog') :
    catalog.resolve call = .ok .unresolved ↔ catalog'.resolve call = .ok .unresolved :=
  ⟨h.unresolved_of, h.symm.unresolved_of⟩

end Agree

end Catalog

end Deadwood
