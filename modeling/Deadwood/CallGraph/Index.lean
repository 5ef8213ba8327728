/-
The tables by which functions are looked up.

Three tables list keys, under the names of functions, their full paths and the tails of
these; a fourth ranks files by their first appearance. They are filled as functions are
added one after another. What they hold then is what a search through all functions finds
(`Index.Describes`): adding a function keeps this (`Describes.add`), so it holds of any
number of them (`describes_ofSymbols`).
-/
import Deadwood.OrderedMap
import Deadwood.Symbol

namespace Deadwood

/-- The last two segments of a path, if it has two. -/
def Catalog.tail? (path : String) : Option String :=
  let segments := ModulePath.split path
  if segments.length < 2 then none else some (ModulePath.join (segments.drop (segments.length - 2)))

/-- Tables of functions: the keys under each name, full path and tail, and the rank of each file. -/
structure Index where
  names : OrderedMap String (List Key) := {}
  paths : OrderedMap String (List Key) := {}
  tails : OrderedMap String (List Key) := {}
  ranks : OrderedMap String Nat := {}
  deriving Repr

namespace Index

/-- Adds the key of a function at the end of the row of its label, if it has one. -/
def enlist (label : Symbol → Option String) (table : OrderedMap String (List Key)) (symbol : Symbol) :
    OrderedMap String (List Key) :=
  match label symbol with
  | some name => table.modify name [] (· ++ [symbol.key])
  | none => table

/-- Gives a file the next rank, unless it has one. -/
def rankFile (ranks : OrderedMap String Nat) (file : String) : OrderedMap String Nat :=
  if ranks.contains file then ranks else ranks.insert file ranks.entries.length

/-- Adds a function to all tables. -/
def add (index : Index) (symbol : Symbol) : Index where
  names := enlist (fun symbol => some symbol.name) index.names symbol
  paths := enlist (fun symbol => some symbol.fullPath) index.paths symbol
  tails := enlist (fun symbol => Catalog.tail? symbol.fullPath) index.tails symbol
  ranks := rankFile index.ranks symbol.file

/-- The tables that functions make as they are added one after another. -/
def ofSymbols (symbols : List Symbol) : Index :=
  symbols.foldl add {}

theorem ofSymbols_append (symbols : List Symbol) (s : Symbol) :
    ofSymbols (symbols ++ [s]) = (ofSymbols symbols).add s := by
  rw [ofSymbols, List.foldl_append]
  rfl

/-! ### Rows of keys -/

variable {label : Symbol → Option String} {symbols : List Symbol}

/-- The keys of the functions with a label. -/
def listed (label : Symbol → Option String) (symbols : List Symbol) (name : String) : List Key :=
  (symbols.filter fun s => label s = some name).map (·.key)

theorem listed_append (label : Symbol → Option String) (symbols : List Symbol) (s : Symbol) (name : String) :
    listed label (symbols ++ [s]) name = listed label symbols name ++ if label s = some name then [s.key] else [] := by
  rw [listed, List.filter_append, List.map_append]
  by_cases h : label s = some name
  · simp [listed, h]
  · simp [listed, h]

/-- A table has a row for each label of some functions, with their keys, and no other. -/
structure Lists (label : Symbol → Option String) (symbols : List Symbol) (table : OrderedMap String (List Key)) :
    Prop where
  row : ∀ name, (table.get? name).getD [] = listed label symbols name
  row_ne_nil : ∀ name, table.get? name ≠ some []
  nodup_keys : table.keys.Nodup

theorem Lists.enlist {table : OrderedMap String (List Key)} (h : Lists label symbols table) (s : Symbol) :
    Lists label (symbols ++ [s]) (enlist label table s) := by
  cases hlabel : label s with
  | none =>
    have htable : Index.enlist label table s = table := by rw [Index.enlist, hlabel]
    rw [htable]
    refine ⟨fun name => ?_, h.row_ne_nil, h.nodup_keys⟩
    rw [listed_append, hlabel, if_neg (by simp), List.append_nil, h.row]
  | some own =>
    have htable : Index.enlist label table s = table.insert own (listed label symbols own ++ [s.key]) := by
      rw [Index.enlist, hlabel, ← h.row]
      rfl
    rw [htable]
    refine ⟨fun name => ?_, fun name => ?_, OrderedMap.nodup_keys_insert h.nodup_keys _ _⟩
    · rw [OrderedMap.get?_insert, listed_append, hlabel]
      by_cases hname : name = own
      · rw [if_pos hname, if_pos (congrArg some hname.symm), Option.getD_some, hname]
      · rw [if_neg hname, if_neg (fun heq => hname (Option.some.inj heq).symm), List.append_nil, h.row]
    · rw [OrderedMap.get?_insert]
      split
      · simp
      · exact h.row_ne_nil name

/-! ### Ranks of files -/

/-- The files of some functions, each once, in the order of first appearance. -/
def filesOf (symbols : List Symbol) : List String :=
  (symbols.map (·.file)).eraseDups

theorem mem_filesOf {s : Symbol} (h : s ∈ symbols) : s.file ∈ filesOf symbols :=
  List.mem_eraseDups.mpr (List.mem_map_of_mem h)

theorem filesOf_append (symbols : List Symbol) (s : Symbol) :
    filesOf (symbols ++ [s]) = if s.file ∈ filesOf symbols then filesOf symbols else filesOf symbols ++ [s.file] := by
  rw [filesOf, filesOf, List.map_append, List.map_singleton, List.eraseDups_append]
  generalize symbols.map (·.file) = files
  by_cases h : s.file ∈ files
  · rw [if_pos (List.mem_eraseDups.mpr h)]
    simp [List.removeAll, h]
  · rw [if_neg fun hin => h (List.mem_eraseDups.mp hin)]
    simp [List.removeAll, h, List.eraseDups_cons]

/-- The files of some functions have their places as ranks, and no other file has a rank. -/
structure Ranks (symbols : List Symbol) (ranks : OrderedMap String Nat) : Prop where
  keys_eq : ranks.keys = filesOf symbols
  rank : ∀ file ∈ filesOf symbols, ranks.get? file = some ((filesOf symbols).idxOf file)

theorem Ranks.rankFile {ranks : OrderedMap String Nat} (h : Ranks symbols ranks) (s : Symbol) :
    Ranks (symbols ++ [s]) (rankFile ranks s.file) := by
  have hcontains : ranks.contains s.file = true ↔ s.file ∈ filesOf symbols := by
    rw [OrderedMap.contains_eq_isSome, ← OrderedMap.mem_keys_iff, h.keys_eq]
  rw [Index.rankFile]
  by_cases hfile : s.file ∈ filesOf symbols
  · have hfiles : filesOf (symbols ++ [s]) = filesOf symbols := by rw [filesOf_append, if_pos hfile]
    rw [if_pos (hcontains.mpr hfile)]
    refine ⟨?_, ?_⟩
    · rw [hfiles, h.keys_eq]
    · rw [hfiles]
      exact h.rank
  · have hfiles : filesOf (symbols ++ [s]) = filesOf symbols ++ [s.file] := by rw [filesOf_append, if_neg hfile]
    have hlength : ranks.entries.length = (filesOf symbols).length := by
      rw [← h.keys_eq, OrderedMap.keys, List.length_map]
    rw [if_neg fun hin => hfile (hcontains.mp hin)]
    refine ⟨?_, fun file hin => ?_⟩
    · rw [OrderedMap.keys_insert, h.keys_eq, if_neg hfile, hfiles]
    · rw [hfiles] at hin ⊢
      rw [OrderedMap.get?_insert]
      by_cases heq : file = s.file
      · -- A new file comes after all others.
        rw [if_pos heq, heq, List.idxOf_append, if_neg hfile, hlength, List.idxOf_cons_self, Nat.add_comm, Nat.add_zero]
      · have hold : file ∈ filesOf symbols := by
          rcases List.mem_append.mp hin with hold | hnew
          · exact hold
          · exact absurd (List.mem_singleton.mp hnew) heq
        rw [if_neg heq, h.rank file hold, List.idxOf_append, if_pos hold]

/-! ### All tables -/

/-- Tables hold what a search through some functions finds. -/
structure Describes (symbols : List Symbol) (index : Index) : Prop where
  names : Lists (fun s => some s.name) symbols index.names
  paths : Lists (fun s => some s.fullPath) symbols index.paths
  tails : Lists (fun s => Catalog.tail? s.fullPath) symbols index.tails
  ranks : Ranks symbols index.ranks

/-- Adding a function keeps the tables in step with the functions. -/
theorem Describes.add {index : Index} (h : Describes symbols index) (s : Symbol) :
    Describes (symbols ++ [s]) (index.add s) where
  names := h.names.enlist s
  paths := h.paths.enlist s
  tails := h.tails.enlist s
  ranks := h.ranks.rankFile s

theorem describes_empty : Describes [] {} := by
  have hlists : ∀ label : Symbol → Option String, Lists label [] {} := by
    intro label
    exact ⟨fun name => rfl, fun name => by simp [OrderedMap.get?], List.nodup_nil⟩
  exact ⟨hlists _, hlists _, hlists _, rfl, fun file hfile => absurd hfile (by simp [filesOf])⟩

theorem Describes.foldl {before : List Symbol} {index : Index} (h : Describes before index) (symbols : List Symbol) :
    Describes (before ++ symbols) (symbols.foldl Index.add index) := by
  induction symbols generalizing before index with
  | nil => rwa [List.append_nil]
  | cons s rest ih =>
    have hrest := ih (h.add s)
    rwa [List.append_assoc, List.singleton_append] at hrest

/-- However many functions are added, the tables hold what a search through them finds. -/
theorem describes_ofSymbols (symbols : List Symbol) : Describes symbols (ofSymbols symbols) :=
  describes_empty.foldl symbols

end Index

end Deadwood
