/-
The functions of a project, and the names that lead to them.

A `Catalog` holds each function once, in the order in which they were declared,
and the aliases that imports make: `use` in module `m` of `target` under the name
`local` makes `m::local` an alias of `target`. Functions are looked up in tables that
are filled as functions are added.
-/
import Deadwood.CallGraph.Index
import Deadwood.CallSite.Basic

namespace Deadwood

/-- Functions, the tables by which they are looked up, and aliases. -/
structure Catalog where
  symbols : List Symbol := []
  index : Index := {}
  aliases : OrderedMap String String := {}
  /-- No two functions have the same key. -/
  keyed : (symbols.map (·.key)).Nodup := by exact List.nodup_nil
  /-- The tables are those that the functions made as they were added. -/
  indexed : index = .ofSymbols symbols := by rfl
  deriving Repr

namespace Catalog

/-- The keys of all functions. -/
def keys (catalog : Catalog) : List Key :=
  catalog.symbols.map (·.key)

/-- The function with a key. -/
def symbol? (catalog : Catalog) (key : Key) : Option Symbol :=
  catalog.symbols.find? (·.key == key)

/-- Whether a key is that of a function. -/
def contains (catalog : Catalog) (key : Key) : Bool :=
  catalog.symbols.any (·.key == key)

theorem mem_keys {catalog : Catalog} {key : Key} : key ∈ catalog.keys ↔ ∃ s ∈ catalog.symbols, s.key = key := by
  rw [keys, List.mem_map]

theorem contains_iff {catalog : Catalog} {key : Key} : catalog.contains key = true ↔ key ∈ catalog.keys := by
  rw [contains, List.any_eq_true, mem_keys]
  simp only [beq_iff_eq]

theorem nodup_keys_append {catalog : Catalog} {s : Symbol} (h : ¬ catalog.contains s.key = true) :
    ((catalog.symbols ++ [s]).map (·.key)).Nodup := by
  rw [List.map_append, List.nodup_append]
  refine ⟨catalog.keyed, by simp, fun a ha b hb heq => h (contains_iff.mpr ?_)⟩
  have hkey : b = s.key := by simpa using hb
  rw [← hkey, ← heq]
  exact ha

/-- Adds a function unless its key is there. -/
def addSymbol (catalog : Catalog) (symbol : Symbol) : Catalog :=
  if h : catalog.contains symbol.key then catalog
  else
    { catalog with
      symbols := catalog.symbols ++ [symbol]
      index := catalog.index.add symbol
      keyed := nodup_keys_append h
      indexed := by rw [catalog.indexed, Index.ofSymbols_append] }

/-- Adds the alias that an import makes. An import under its own path makes none. -/
def addAlias (catalog : Catalog) (module name target : String) : Catalog :=
  let path := ModulePath.join (ModulePath.split module ++ [name])
  if path == target then catalog else { catalog with aliases := catalog.aliases.insert path target }

/-- Adds the aliases that all imports make. -/
def addImports (catalog : Catalog) (imports : Imports) : Catalog :=
  imports.entries.foldl (fun catalog entry =>
    entry.2.entries.foldl (fun catalog binding => catalog.addAlias entry.1 binding.1 binding.2) catalog) catalog

/-- The catalog of the given functions and imports. -/
def ofProject (symbols : List Symbol) (imports : Imports) : Catalog :=
  (symbols.foldl addSymbol {}).addImports imports

/-- The keys of the functions with a name. -/
def withName (catalog : Catalog) (name : String) : List Key :=
  (catalog.index.names.get? name).getD []

/-- The keys of the functions with a full path. -/
def withPath (catalog : Catalog) (path : String) : List Key :=
  (catalog.index.paths.get? path).getD []

/-- The keys of the functions whose path ends in two given segments. -/
def withTail (catalog : Catalog) (tail : String) : List Key :=
  (catalog.index.tails.get? tail).getD []

/-- All tails, each with its keys. -/
def tails (catalog : Catalog) : List (String × List Key) :=
  catalog.index.tails.entries

/-- The keys whose path is a target; if there is none, those whose path ends with it. -/
def find (catalog : Catalog) (target : String) : List Key :=
  match catalog.withPath target with
  | [] => (catalog.keys.filter fun key => ModulePath.endsWith key.path target)
  | keys => keys

/-! ### The order of reports -/

/-- The place of a file in the order of first appearance. -/
def fileRank? (catalog : Catalog) (file : String) : Option Nat :=
  catalog.index.ranks.get? file

/-- The order of reports: by the rank of the file, the place in the file, and the path. -/
def rankedLe (a b : Nat × Symbol) : Bool :=
  a.1 < b.1 || (a.1 == b.1 &&
    (a.2.order < b.2.order || (a.2.order == b.2.order && a.2.fullPath ≤ b.2.fullPath)))

/-- The functions with the given keys, in the order of reports. There is no answer if a key is unknown or a file has no
rank. -/
def ordered? (catalog : Catalog) (keys : List Key) : Option (List Symbol) := do
  let symbols ← keys.mapM catalog.symbol?
  let ranked ← symbols.mapM fun symbol => (catalog.fileRank? symbol.file).map (·, symbol)
  return (ranked.mergeSort rankedLe).map (·.2)

theorem describes (catalog : Catalog) : catalog.index.Describes catalog.symbols :=
  catalog.indexed ▸ Index.describes_ofSymbols catalog.symbols

theorem exists_mapM_some {α β : Type} {f : α → Option β} {P : β → Prop} {items : List α}
    (h : ∀ x ∈ items, ∃ y, f x = some y ∧ P y) : ∃ results, items.mapM f = some results ∧ ∀ y ∈ results, P y := by
  induction items with
  | nil => exact ⟨[], rfl, fun y hy => absurd hy List.not_mem_nil⟩
  | cons x rest ih =>
    obtain ⟨y, hy, hP⟩ := h x List.mem_cons_self
    obtain ⟨results, hrest, hresults⟩ := ih fun x hx => h x (List.mem_cons_of_mem _ hx)
    refine ⟨y :: results, ?_, List.forall_mem_cons.mpr ⟨hP, hresults⟩⟩
    rw [List.mapM_cons, hy, hrest]
    rfl

/-- Functions of the catalog are found by their keys, and their files have ranks. -/
theorem isSome_ordered? {catalog : Catalog} {keys : List Key} (h : keys ⊆ catalog.keys) :
    (catalog.ordered? keys).isSome = true := by
  have hfound : ∀ key ∈ keys, ∃ s, catalog.symbol? key = some s ∧ s ∈ catalog.symbols := by
    intro key hkey
    obtain ⟨s, hs, rfl⟩ := mem_keys.mp (h hkey)
    have hsome : (catalog.symbol? s.key).isSome = true :=
      List.find?_isSome.mpr ⟨s, hs, beq_self_eq_true s.key⟩
    obtain ⟨found, hfound⟩ := Option.isSome_iff_exists.mp hsome
    exact ⟨found, hfound, List.mem_of_find?_eq_some hfound⟩
  obtain ⟨symbols, hsymbols, hin⟩ := exists_mapM_some hfound
  have hranked : ∀ s ∈ symbols, ∃ ranked,
      (catalog.fileRank? s.file).map (·, s) = some ranked ∧ ranked.2 ∈ catalog.symbols := by
    intro s hs
    exact ⟨_, by rw [fileRank?, catalog.describes.ranks.rank _ (Index.mem_filesOf (hin s hs))]; rfl, hin s hs⟩
  obtain ⟨ranked, hranks, -⟩ := exists_mapM_some hranked
  rw [ordered?, hsymbols]
  show (Option.bind (symbols.mapM _) _).isSome = true
  rw [hranks]
  rfl

end Catalog

end Deadwood
