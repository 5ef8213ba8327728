/-
The functions that a file contributes.

What becomes of a declaration does not depend on the others, so the functions of a
file are those of its sound declarations, without the repeated paths:

* **`isFirst_of_mem_foldl`** — a function is the first declaration of its path;
* **`exists_symbol_of_declaration`** — the path of every sound declaration is that
  of a function of the file, also if another declaration took it first;
* **`file_of_mem_symbols`** — all of them belong to the file;
* **`nodup_fullPath`** — no path is there twice, so neither is a key
  (`nodup_key`).

These follow from what the addition of one outcome does (`FileSymbols.add`), by
induction along the list of outcomes.
-/
import Deadwood.Declaration
import Mathlib.Data.List.Induction
import Mathlib.Data.List.Nodup

namespace Deadwood.FileSymbols

open Syntax

variable {file : String} {source : Source} {root : Node}

theorem symbols_close (file : String) (source : Source) (root : Node) (found : FileSymbols) :
    (found.close file source root).symbols = found.symbols := by
  rw [close]
  split <;> rfl

theorem symbols_extract (file : String) (source : Source) (root : Node) :
    (extract file source root).symbols =
      (((declarations file source root).map (·.outcome file source)).foldl add {}).symbols :=
  symbols_close file source root _

/-- What the addition of an outcome does to the functions: nothing, or one more with a new path. -/
theorem symbols_add_cases (found : FileSymbols) (outcome : Declaration.Outcome) :
    (found.add outcome).symbols = found.symbols ∨
      ∃ symbol, outcome = .sound symbol ∧ symbol.fullPath ∉ found.symbols.map (·.fullPath) ∧
        (found.add outcome).symbols = found.symbols ++ [{ symbol with order := found.symbols.length }] := by
  cases outcome with
  | broken diagnostic => exact Or.inl rfl
  | sound symbol =>
    rw [add]
    split
    · exact Or.inl rfl
    · rename_i hnew
      refine Or.inr ⟨symbol, rfl, fun hmem => hnew ?_, rfl⟩
      obtain ⟨s, hs, hpath⟩ := List.mem_map.mp hmem
      exact List.any_eq_true.mpr ⟨s, hs, beq_iff_eq.mpr hpath⟩

theorem fullPath_mem_add_of_sound (found : FileSymbols) (symbol : Symbol) :
    symbol.fullPath ∈ (found.add (.sound symbol)).symbols.map (·.fullPath) := by
  rw [add]
  split
  · rename_i hold
    obtain ⟨s, hs, hpath⟩ := List.any_eq_true.mp hold
    exact List.mem_map.mpr ⟨s, hs, beq_iff_eq.mp hpath⟩
  · simp

theorem nodup_fullPath_foldl (outcomes : List Declaration.Outcome) :
    ((outcomes.foldl add {}).symbols.map (·.fullPath)).Nodup := by
  induction outcomes using List.reverseRecOn with
  | nil => exact List.nodup_nil
  | append_singleton outcomes outcome ih =>
    rw [List.foldl_append, List.foldl_cons, List.foldl_nil]
    rcases symbols_add_cases (outcomes.foldl add {}) outcome with h | ⟨symbol, -, hnew, h⟩
    · rwa [h]
    · rw [h, List.map_append, List.map_singleton, ← List.concat_eq_append]
      exact List.Nodup.concat hnew ih

theorem fullPath_mem_foldl {outcomes : List Declaration.Outcome} {symbol : Symbol} (h : .sound symbol ∈ outcomes) :
    symbol.fullPath ∈ (outcomes.foldl add {}).symbols.map (·.fullPath) := by
  induction outcomes using List.reverseRecOn with
  | nil => exact absurd h List.not_mem_nil
  | append_singleton outcomes outcome ih =>
    rw [List.foldl_append, List.foldl_cons, List.foldl_nil]
    rcases List.mem_append.mp h with h | h
    · have hold := ih h
      rcases symbols_add_cases (outcomes.foldl add {}) outcome with hadd | ⟨_, -, -, hadd⟩
      · rwa [hadd]
      · rw [hadd, List.map_append]
        exact List.mem_append_left _ hold
    · rw [← List.mem_singleton.mp h]
      exact fullPath_mem_add_of_sound _ symbol

/-- A sound outcome with no earlier one of the same path. -/
def IsFirst (outcomes : List Declaration.Outcome) (s : Symbol) : Prop :=
  ∃ before after, outcomes = before ++ .sound s :: after ∧ ∀ t, .sound t ∈ before → t.fullPath ≠ s.fullPath

theorem IsFirst.append {outcomes : List Declaration.Outcome} {s : Symbol} (h : IsFirst outcomes s)
    (more : List Declaration.Outcome) : IsFirst (outcomes ++ more) s := by
  obtain ⟨before, after, rfl, hnew⟩ := h
  exact ⟨before, after ++ more, by simp, hnew⟩

/-- A path has one first declaration. -/
theorem IsFirst.unique {outcomes : List Declaration.Outcome} {s t : Symbol} (hs : IsFirst outcomes s)
    (ht : IsFirst outcomes t) (hpath : s.fullPath = t.fullPath) : s = t := by
  obtain ⟨before, after, rfl, hnew⟩ := hs
  obtain ⟨before', after', heq, hnew'⟩ := ht
  -- Of two different places the later one would have the other before it.
  rcases List.append_eq_append_iff.mp heq with ⟨between, rfl, hrest⟩ | ⟨between, rfl, hrest⟩
  · rcases List.cons_eq_append_iff.mp hrest with ⟨-, hhead⟩ | ⟨more, rfl, -⟩
    · exact Declaration.Outcome.sound.inj (List.cons.inj hhead).1.symm
    · exact absurd hpath (hnew' s (by simp))
  · rcases List.cons_eq_append_iff.mp hrest with ⟨-, hhead⟩ | ⟨more, rfl, -⟩
    · exact Declaration.Outcome.sound.inj (List.cons.inj hhead).1
    · exact absurd hpath.symm (hnew t (by simp))

/-- Every function comes from the first declaration of its path, apart from its place. -/
theorem isFirst_of_mem_foldl {outcomes : List Declaration.Outcome} {s : Symbol}
    (h : s ∈ (outcomes.foldl add {}).symbols) :
    ∃ first, IsFirst outcomes first ∧ s = { first with order := s.order } := by
  induction outcomes using List.reverseRecOn with
  | nil => exact absurd h List.not_mem_nil
  | append_singleton outcomes outcome ih =>
    rw [List.foldl_append, List.foldl_cons, List.foldl_nil] at h
    have hearlier : s ∈ (outcomes.foldl add {}).symbols →
        ∃ first, IsFirst (outcomes ++ [outcome]) first ∧ s = { first with order := s.order } := by
      intro hs
      obtain ⟨first, hfirst, heq⟩ := ih hs
      exact ⟨first, hfirst.append _, heq⟩
    rcases symbols_add_cases (outcomes.foldl add {}) outcome with hadd | ⟨symbol, rfl, hnew, hadd⟩
    · rw [hadd] at h
      exact hearlier h
    · rw [hadd, List.mem_append, List.mem_singleton] at h
      rcases h with h | rfl
      · exact hearlier h
      · -- The function was added, so no sound outcome before it has its path.
        refine ⟨symbol, ⟨outcomes, [], rfl, fun t ht hpath => hnew ?_⟩, rfl⟩
        exact hpath ▸ fullPath_mem_foldl ht

/-- Every function comes from a sound outcome, apart from its place. -/
theorem sound_of_mem_foldl {outcomes : List Declaration.Outcome} {s : Symbol}
    (h : s ∈ (outcomes.foldl add {}).symbols) :
    ∃ symbol, .sound symbol ∈ outcomes ∧ s = { symbol with order := s.order } := by
  obtain ⟨first, ⟨before, after, rfl, -⟩, heq⟩ := isFirst_of_mem_foldl h
  exact ⟨first, by simp, heq⟩

/-! ### The functions of a file -/

/-- No full path is there twice. -/
theorem nodup_fullPath (file : String) (source : Source) (root : Node) :
    ((extract file source root).symbols.map (·.fullPath)).Nodup := by
  rw [symbols_extract]
  exact nodup_fullPath_foldl _

theorem file_of_sound {s : Symbol}
    (h : .sound s ∈ (declarations file source root).map (·.outcome file source)) : s.file = file := by
  obtain ⟨declaration, -, hsound⟩ := List.mem_map.mp h
  rw [Declaration.outcome] at hsound
  split at hsound
  · exact absurd hsound (by simp)
  · rw [← Declaration.Outcome.sound.inj hsound]
    rfl

/-- All functions of a file belong to it. -/
theorem file_of_mem_symbols {s : Symbol} (h : s ∈ (extract file source root).symbols) : s.file = file := by
  rw [symbols_extract] at h
  obtain ⟨symbol, hmem, heq⟩ := sound_of_mem_foldl h
  have hfile := file_of_sound hmem
  rw [heq]
  exact hfile

/-- No key is there twice. -/
theorem nodup_key (file : String) (source : Source) (root : Node) :
    ((extract file source root).symbols.map (·.key)).Nodup := by
  have hpath := nodup_fullPath file source root
  refine List.Nodup.of_map Key.path ?_
  rw [List.map_map]
  exact hpath

/-- A sound declaration has its path among the functions of the file. -/
theorem exists_symbol_of_declaration {declaration : Declaration} {name : String}
    (h : declaration ∈ declarations file source root) (hname : enterable? source declaration.node = some name) :
    ∃ s ∈ (extract file source root).symbols, s.fullPath = declaration.fullPath name := by
  have hsound : .sound (declaration.toSymbol file source name) ∈
      (declarations file source root).map (·.outcome file source) := by
    refine List.mem_map.mpr ⟨declaration, h, ?_⟩
    rw [Declaration.outcome, hname]
  obtain ⟨s, hs, hpath⟩ := List.mem_map.mp (fullPath_mem_foldl hsound)
  rw [symbols_extract]
  exact ⟨s, hs, hpath⟩

end Deadwood.FileSymbols
