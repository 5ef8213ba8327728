/-
Which aliases the imports of a project make.

Imports are merged file by file, and an entry replaces an earlier one for the same
name in the same module.  Then each entry makes an alias, which replaces an earlier
one of the same path.  What overwriting leaves is a selection (`Selects`): no value
is made up, and no key loses all of its values.

* **`Selects.foldl`** — steps that select, one after the other, select from
  everything they were given; each of the loops is one of these;
* **`selects_ofFacts`**, **`selects_aliases`** — hence what is merged, and what
  is made an alias, is selected from the entries of all files;
* **`get?_aliases_iff`** — if no path is imported with two targets there is nothing
  to select, and the aliases are the imported paths, whatever the order.
-/
import Deadwood.Analysis
import Deadwood.Proofs.Catalog

namespace Deadwood

/-- A choice among the values of each key: nothing else, and something for each key that has a value. -/
def Selects {α β : Type} (chosen all : α → β → Prop) : Prop :=
  (∀ key value, chosen key value → all key value) ∧ ∀ key value, all key value → ∃ value', chosen key value'

namespace Selects

variable {α β γ : Type} {chosen all more : α → β → Prop}

theorem of_iff (h : ∀ key value, chosen key value ↔ all key value) : Selects chosen all :=
  ⟨fun key value => (h key value).mp, fun key value hall => ⟨value, (h key value).mpr hall⟩⟩

theorem trans (h : Selects chosen all) (h' : Selects all more) : Selects chosen more := by
  refine ⟨fun key value hchosen => h'.1 key value (h.1 key value hchosen), fun key value hmore => ?_⟩
  obtain ⟨value', hall⟩ := h'.2 key value hmore
  exact h.2 key value' hall

theorem or_right (h : Selects chosen all) (more : α → β → Prop) :
    Selects (fun key value => chosen key value ∨ more key value) fun key value => all key value ∨ more key value := by
  refine ⟨fun key value => Or.imp_left (h.1 key value), fun key value hall => ?_⟩
  rcases hall with hall | hmore
  · obtain ⟨value', hchosen⟩ := h.2 key value hall
    exact ⟨value', Or.inl hchosen⟩
  · exact ⟨value, Or.inr hmore⟩

/-- A selection stays one if keys are identified. -/
theorem image (h : Selects chosen all) (f : α → γ) :
    Selects (fun key value => ∃ x, f x = key ∧ chosen x value) fun key value => ∃ x, f x = key ∧ all x value := by
  constructor
  · rintro key value ⟨x, hx, hchosen⟩
    exact ⟨x, hx, h.1 x value hchosen⟩
  · rintro key value ⟨x, hx, hall⟩
    obtain ⟨value', hchosen⟩ := h.2 x value hall
    exact ⟨value', x, hx, hchosen⟩

/-- **A run of steps that each select from what was there and what the step adds selects from all of it.** -/
theorem foldl {σ ι : Type} (holds : σ → α → β → Prop) (adds : ι → α → β → Prop) {step : σ → ι → σ}
    (hstep : ∀ state item,
      Selects (holds (step state item)) fun key value => holds state key value ∨ adds item key value)
    (items : List ι) (state : σ) :
    Selects (holds (items.foldl step state)) fun key value =>
      holds state key value ∨ ∃ item ∈ items, adds item key value := by
  induction items generalizing state with
  | nil => exact of_iff fun key value => by simp
  | cons item rest ih =>
    refine (ih (step state item)).trans (((hstep state item).or_right _).trans (of_iff fun key value => ?_))
    rw [List.exists_mem_cons_iff, or_assoc]

end Selects

/-! ### Maps -/

namespace OrderedMap

variable {α β : Type} [DecidableEq α] {map : OrderedMap α β} {key k : α} {value v : β}

theorem mem_insert_self (map : OrderedMap α β) (key : α) (value : β) :
    (key, value) ∈ (map.insert key value).entries :=
  mem_of_get? (by rw [get?_insert, if_pos rfl])

theorem mem_of_mem_insert (h : (k, v) ∈ (map.insert key value).entries) :
    (k, v) ∈ map.entries ∨ k = key ∧ v = value := by
  obtain ⟨entries⟩ := map
  rw [insert] at h
  induction entries with
  | nil => exact Or.inr (Prod.mk.inj (List.mem_singleton.mp h))
  | cons entry rest ih =>
    rw [insertEntry] at h
    split at h
    · rcases List.mem_cons.mp h with h | h
      · exact Or.inr (Prod.mk.inj h)
      · exact Or.inl (List.mem_cons_of_mem _ h)
    · rcases List.mem_cons.mp h with h | h
      · exact Or.inl (h ▸ List.mem_cons_self)
      · exact (ih h).imp_left (List.mem_cons_of_mem _)

/-- Insertion removes nothing but the value that the key had. -/
theorem mem_insert_or (h : (k, v) ∈ map.entries) (key : α) (value : β) :
    (k, v) ∈ (map.insert key value).entries ∨ k = key ∧ map.get? key = some v := by
  obtain ⟨entries⟩ := map
  rw [insert, get?]
  induction entries with
  | nil => exact absurd h List.not_mem_nil
  | cons entry rest ih =>
    rw [insertEntry]
    by_cases hkey : entry.1 = key
    · -- The first entry of the key is the one that is looked up, and no other is replaced.
      rw [if_pos (beq_iff_eq.mpr hkey)]
      rcases List.mem_cons.mp h with rfl | h
      · obtain rfl : k = key := hkey
        exact Or.inr ⟨rfl, by simp⟩
      · exact Or.inl (List.mem_cons_of_mem _ h)
    · rw [if_neg fun hc => hkey (beq_iff_eq.mp hc)]
      rcases List.mem_cons.mp h with rfl | h
      · exact Or.inl List.mem_cons_self
      · have hfind : (entry :: rest).find? (fun entry => entry.1 == key) = rest.find? fun entry => entry.1 == key :=
          List.find?_cons_of_neg (by simpa using hkey)
        rw [hfind]
        exact (ih h).imp_left (List.mem_cons_of_mem _)

/-- A map has a value for a key. -/
def Holds (map : OrderedMap α β) (k : α) (v : β) : Prop :=
  (k, v) ∈ map.entries

theorem selects_insert (map : OrderedMap α β) (key : α) (value : β) :
    Selects (map.insert key value).Holds fun k v => map.Holds k v ∨ k = key ∧ v = value := by
  refine ⟨fun k v => mem_of_mem_insert, fun k v h => ?_⟩
  rcases h with h | ⟨rfl, rfl⟩
  · rcases mem_insert_or h key value with h | ⟨rfl, -⟩
    · exact ⟨v, h⟩
    · exact ⟨value, mem_insert_self map k value⟩
  · exact ⟨v, mem_insert_self map k v⟩

/-- The union of two maps has a value of one of them for each key of either. -/
theorem selects_union (map other : OrderedMap α β) :
    Selects (map.union other).Holds fun k v => map.Holds k v ∨ other.Holds k v := by
  have hrun := Selects.foldl Holds (fun pair k v => k = pair.1 ∧ v = pair.2)
    (fun map pair => selects_insert map pair.1 pair.2) other.entries map
  refine hrun.trans (Selects.of_iff fun k v => or_congr_right ?_)
  constructor
  · rintro ⟨pair, hmem, rfl, rfl⟩
    exact hmem
  · exact fun hmem => ⟨(k, v), hmem, rfl, rfl⟩

end OrderedMap

/-! ### Imports of several files -/

namespace Imports

/-- An entry of some imports: the module and the name in it, and the target. -/
def Binds (imports : Imports) (place : String × String) (target : String) : Prop :=
  ∃ table : OrderedMap String String, imports.Holds place.1 table ∧ table.Holds place.2 target

theorem selects_modify (imports : Imports) (module : String) (table : OrderedMap String String) :
    Selects (Binds (imports.modify module {} (·.union table))) fun place target =>
      imports.Binds place target ∨ place.1 = module ∧ table.Holds place.2 target := by
  -- The table of the module, if it has one, is replaced by its union with the new one.
  have hunion := OrderedMap.selects_union ((imports.get? module).getD {}) table
  constructor
  · rintro place target ⟨table', htable, htarget⟩
    rcases OrderedMap.mem_of_mem_insert htable with hold | ⟨hmodule, rfl⟩
    · exact Or.inl ⟨table', hold, htarget⟩
    · rcases hunion.1 _ _ htarget with hold | hnew
      · cases hget : imports.get? module with
        | none =>
          rw [hget] at hold
          exact absurd hold List.not_mem_nil
        | some old =>
          rw [hget] at hold
          exact Or.inl ⟨old, hmodule ▸ OrderedMap.mem_of_get? hget, hold⟩
      · exact Or.inr ⟨hmodule, hnew⟩
  · rintro place target (⟨old, hold, htarget⟩ | ⟨rfl, hnew⟩)
    · rcases OrderedMap.mem_insert_or hold module (((imports.get? module).getD {}).union table) with
        hkept | ⟨hmodule, hget⟩
      · exact ⟨target, old, hkept, htarget⟩
      · rw [hget] at hunion
        obtain ⟨target', htarget'⟩ := hunion.2 _ _ (Or.inl htarget)
        refine ⟨target', old.union table, ?_, htarget'⟩
        rw [OrderedMap.modify, hget, hmodule]
        exact OrderedMap.mem_insert_self imports module (old.union table)
    · obtain ⟨target', htarget'⟩ := hunion.2 _ _ (Or.inr hnew)
      exact ⟨target', _, OrderedMap.mem_insert_self .., htarget'⟩

theorem selects_merge (imports other : Imports) :
    Selects (imports.merge other).Binds fun place target => imports.Binds place target ∨ other.Binds place target := by
  have hrun := Selects.foldl Binds (fun entry place target => place.1 = entry.1 ∧ entry.2.Holds place.2 target)
    (fun imports entry => selects_modify imports entry.1 entry.2) other.entries imports
  refine hrun.trans (Selects.of_iff fun place target => or_congr_right ?_)
  constructor
  · rintro ⟨⟨module, table⟩, hmem, hmodule, htarget⟩
    exact ⟨table, hmodule ▸ hmem, htarget⟩
  · rintro ⟨table, hmem, htarget⟩
    exact ⟨(place.1, table), hmem, rfl, htarget⟩

/-- The imports of several files. -/
def ofFacts (facts : List FileFacts) : Imports :=
  facts.foldl (fun imports file => imports.merge file.calls.imports) {}

/-- Merging leaves, for each name that one of the files imports, the target of one of them. -/
theorem selects_ofFacts (facts : List FileFacts) :
    Selects (ofFacts facts).Binds fun place target => ∃ file ∈ facts, file.calls.imports.Binds place target := by
  have hrun := Selects.foldl Binds (fun (file : FileFacts) => file.calls.imports.Binds)
    (fun imports file => selects_merge imports file.calls.imports) facts {}
  refine hrun.trans (Selects.of_iff fun place target => ⟨fun h => h.resolve_left ?_, Or.inr⟩)
  rintro ⟨table, hmem, -⟩
  exact absurd hmem List.not_mem_nil

/-- The path that a name in a module is an alias under. -/
def aliasPath (place : String × String) : String :=
  ModulePath.join (ModulePath.split place.1 ++ [place.2])

end Imports

/-! ### Aliases -/

namespace Catalog

open Imports (aliasPath)

theorem aliases_addAlias (catalog : Catalog) (module name target : String) :
    (catalog.addAlias module name target).aliases =
      if aliasPath (module, name) = target then catalog.aliases
      else catalog.aliases.insert (aliasPath (module, name)) target := by
  rw [addAlias, aliasPath]
  by_cases hself : ModulePath.join (ModulePath.split module ++ [name]) = target
  · rw [if_pos hself, if_pos (beq_iff_eq.mpr hself)]
  · rw [if_neg hself, if_neg fun hc => hself (beq_iff_eq.mp hc)]

/-- A path is an alias of a target. -/
def HasAlias (catalog : Catalog) (path target : String) : Prop :=
  catalog.aliases.get? path = some target

theorem selects_addAlias (catalog : Catalog) (module name target : String) :
    Selects (catalog.addAlias module name target).HasAlias fun path t =>
      catalog.HasAlias path t ∨ path = aliasPath (module, name) ∧ t = target ∧ path ≠ t := by
  by_cases hself : aliasPath (module, name) = target
  · refine Selects.of_iff fun path t => ?_
    rw [HasAlias, aliases_addAlias, if_pos hself]
    refine ⟨Or.inl, fun h => h.resolve_right ?_⟩
    rintro ⟨rfl, rfl, hne⟩
    exact hne hself
  · have hget : ∀ path t, (catalog.addAlias module name target).HasAlias path t ↔
        (if path = aliasPath (module, name) then some target else catalog.aliases.get? path) = some t := by
      intro path t
      rw [HasAlias, aliases_addAlias, if_neg hself, OrderedMap.get?_insert]
    constructor
    · intro path t h
      by_cases hpath : path = aliasPath (module, name)
      · rw [hget, if_pos hpath] at h
        obtain rfl := Option.some.inj h
        exact Or.inr ⟨hpath, rfl, hpath ▸ hself⟩
      · rw [hget, if_neg hpath] at h
        exact Or.inl h
    · intro path t h
      by_cases hpath : path = aliasPath (module, name)
      · exact ⟨target, (hget path target).mpr (if_pos hpath)⟩
      · have hold := h.resolve_right fun hnew => hpath hnew.1
        exact ⟨t, (hget path t).mpr ((if_neg hpath).trans hold)⟩

theorem selects_table (catalog : Catalog) (module : String) (table : List (String × String)) :
    Selects (table.foldl (fun catalog binding => catalog.addAlias module binding.1 binding.2) catalog).HasAlias
      fun path t => catalog.HasAlias path t ∨
        ∃ binding ∈ table, path = aliasPath (module, binding.1) ∧ t = binding.2 ∧ path ≠ t :=
  Selects.foldl HasAlias _ (fun catalog binding => selects_addAlias catalog module binding.1 binding.2) table catalog

/-- The aliases of a project are selected from the entries of its imports, without those that name themselves. -/
theorem selects_aliases (symbols : List Symbol) (imports : Imports) :
    Selects (ofProject symbols imports).HasAlias fun path target =>
      (∃ place, aliasPath place = path ∧ imports.Binds place target) ∧ path ≠ target := by
  have hrun := Selects.foldl HasAlias _ (fun catalog entry => selects_table catalog entry.1 entry.2.entries)
    imports.entries (symbols.foldl addSymbol {})
  refine hrun.trans (Selects.of_iff fun path target => ?_)
  rw [HasAlias, aliases_foldl_addSymbol]
  constructor
  · rintro (hnone | ⟨entry, hentry, binding, hbinding, rfl, rfl, hne⟩)
    · exact absurd hnone (by simp [OrderedMap.get?])
    · exact ⟨⟨(entry.1, binding.1), rfl, entry.2, hentry, hbinding⟩, hne⟩
  · rintro ⟨⟨place, rfl, table, htable, htarget⟩, hne⟩
    exact Or.inr ⟨(place.1, table), htable, (place.2, target), htarget, rfl, rfl, hne⟩

end Catalog

/-- A path is imported by one of some files with a target. -/
def ImportedAs (facts : List FileFacts) (path target : String) : Prop :=
  ∃ place, Imports.aliasPath place = path ∧ ∃ file ∈ facts, file.calls.imports.Binds place target

/-- **If no path is imported with two targets, the aliases are exactly the imported paths.** -/
theorem get?_aliases_iff {facts : List FileFacts}
    (hone : ∀ path target target', ImportedAs facts path target → ImportedAs facts path target' → target = target')
    (symbols : List Symbol) (path target : String) :
    (Catalog.ofProject symbols (Imports.ofFacts facts)).aliases.get? path = some target ↔
      ImportedAs facts path target ∧ path ≠ target := by
  have hmerged := (Imports.selects_ofFacts facts).image Imports.aliasPath
  have haliases := Catalog.selects_aliases symbols (Imports.ofFacts facts)
  constructor
  · intro hget
    obtain ⟨hbinds, hne⟩ := haliases.1 path target hget
    exact ⟨hmerged.1 path target hbinds, hne⟩
  · rintro ⟨himported, hne⟩
    -- Whatever is selected on the way from the imports to the aliases is this one target.
    obtain ⟨merged, hbinds⟩ := hmerged.2 path target himported
    obtain rfl := hone path merged target (hmerged.1 path merged hbinds) himported
    obtain ⟨chosen, hget⟩ := haliases.2 path merged ⟨hbinds, hne⟩
    obtain rfl := hone path chosen merged (hmerged.1 path chosen (haliases.1 path chosen hget).1) himported
    exact hget

end Deadwood
