/-
Where the root of a crate is found.

A file is known by a name that depends on where the analysis starts: `src/net/tcp.rs` in
the folder of the crate, `crates/wire/src/net/tcp.rs` above it and `net/tcp.rs` inside.
The root of the crate is looked for in two ways, by the last component `src` and, where
there is none, by the first crate directory.

* **`components_below`** — the components of a relative name are the last ones of every
  longer name that ends with it;
* **`inCrate_of_src`** — what stands above the last `src` does not count;
* **`fromCrateDirectory_eq_self`** — nothing is cut off where the only crate directory is
  the first component;
* **`module_independent_of_start`** — hence the module of a file is the one that its names
  below the root of the crate give, wherever the analysis starts.
-/
import Deadwood.ModulePath
import Mathlib.Data.List.Basic
import Mathlib.Data.List.Forall2

namespace Deadwood.ModulePath

/-! ### Components of a file name -/

/-- A character of a file name, with one kind of slash for both. -/
def unified (c : Char) : Char :=
  if c = '\\' then '/' else c

/-- A file name that does not begin with a slash of either kind. -/
def IsRelative (file : String) : Prop :=
  file.toList.head?.map unified ≠ some '/'

/-- The second name is the first one with some of its slashes written as backslashes. -/
def Respelled (file other : String) : Prop :=
  List.Forall₂ (fun c d => d = c ∨ (c = '/' ∧ d = '\\')) file.toList other.toList

/-- The names between slashes that count. -/
def names (chars : List Char) : List String :=
  ((chars.splitOn '/').map String.ofList).filter fun s => s != "" && s != "." && s != ".."

/-- The component that stands for two slashes at the beginning. -/
def rootNames (chars : List Char) : List String :=
  if chars.take 2 = ['/', '/'] ∧ chars[2]? ≠ some '/' then ["//"] else []

theorem components_eq (file : String) :
    components file = rootNames (file.toList.map unified) ++ names (file.toList.map unified) := by
  rw [rootNames]
  split
  case isTrue hslashes => exact if_pos hslashes
  case isFalse hslashes => exact if_neg hslashes

theorem names_append_slash (above below : List Char) :
    names (above ++ '/' :: below) = names above ++ names below := by
  rw [names, List.splitOn, List.splitOnP_append_cons above below (by decide), List.map_append, List.filter_append]
  rfl

theorem rootNames_of_head_ne {c : Char} (hc : c ≠ '/') (chars : List Char) : rootNames (c :: chars) = [] := by
  refine if_neg fun hslashes => hc ?_
  rw [List.take_succ_cons, List.cons.injEq] at hslashes
  exact hslashes.1.1

theorem components_of_relative {file : String} (hrelative : IsRelative file) :
    components file = names (file.toList.map unified) := by
  rw [components_eq]
  cases hchars : file.toList with
  | nil => rfl
  | cons c chars =>
    have hc : unified c ≠ '/' := by
      intro hslash
      rw [IsRelative, hchars] at hrelative
      exact hrelative (congrArg some hslash)
    rw [List.map_cons, rootNames_of_head_ne hc, List.nil_append]

theorem map_unified_below (above file : String) :
    (above ++ "/" ++ file).toList.map unified = above.toList.map unified ++ '/' :: file.toList.map unified := by
  rw [String.toList_append, String.toList_append, List.map_append, List.map_append, List.append_assoc]
  rfl

/-- What stands before a relative name gives components before its own. -/
theorem components_below (above : String) {file : String} (hrelative : IsRelative file) :
    ∃ outer, components (above ++ "/" ++ file) = outer ++ components file := by
  rw [components_eq, map_unified_below, names_append_slash, components_of_relative hrelative, ← List.append_assoc]
  exact ⟨_, rfl⟩

theorem components_below_src {file : String} (hrelative : IsRelative file) :
    components ("src" ++ "/" ++ file) = "src" :: components file := by
  have hroot : rootNames (("src" ++ "/" ++ file).toList.map unified) = [] := by
    rw [map_unified_below]
    exact rootNames_of_head_ne (by decide) _
  have hsrc : names ("src".toList.map unified) = ["src"] := by decide
  rw [components_eq, hroot, map_unified_below, names_append_slash, components_of_relative hrelative, hsrc]
  rfl

theorem Respelled.components_eq {file other : String} (h : Respelled file other) :
    components other = components file := by
  have hsame : ∀ {cs ds : List Char}, List.Forall₂ (fun c d => d = c ∨ (c = '/' ∧ d = '\\')) cs ds →
      ds.map unified = cs.map unified := by
    intro cs ds h
    induction h with
    | nil => rfl
    | cons hcd _ ih =>
      rw [List.map_cons, List.map_cons, ih]
      obtain rfl | ⟨rfl, rfl⟩ := hcd <;> rfl
  rw [ModulePath.components_eq, ModulePath.components_eq, hsame h]

/-! ### The root of the crate -/

theorem exists_last_src {all : List String} (hsrc : "src" ∈ all) :
    ∃ outer inner, all = outer ++ "src" :: inner ∧ "src" ∉ inner := by
  obtain ⟨inner, outer, hall, hinner⟩ := List.eq_append_cons_of_mem (List.mem_reverse.mpr hsrc)
  refine ⟨outer.reverse, inner.reverse, ?_, by rwa [List.mem_reverse]⟩
  rw [List.reverse_eq_iff.mp hall, List.reverse_append, List.reverse_cons, List.append_assoc]
  rfl

theorem inCrate_of_src (outer : List String) {inner : List String} (hinner : "src" ∉ inner) :
    inCrate (outer ++ "src" :: inner) = inner := by
  have hsrc : (outer ++ "src" :: inner).contains "src" = true :=
    List.contains_iff_mem.mpr (List.mem_append_right _ List.mem_cons_self)
  have hlast : (outer ++ "src" :: inner).reverse.takeWhile (· != "src") = inner.reverse := by
    rw [List.reverse_append, List.reverse_cons, List.append_assoc, List.takeWhile_append_of_pos]
    · simp
    · intro name hname
      simpa using ne_of_mem_of_not_mem (List.mem_reverse.mp hname) hinner
  rw [inCrate, afterSrc?, if_pos hsrc, hlast, List.reverse_reverse]

theorem inCrate_of_notMem_src {all : List String} (hsrc : "src" ∉ all) : inCrate all = fromCrateDirectory all := by
  rw [inCrate, afterSrc?, if_neg (by simpa using hsrc)]

theorem fromCrateDirectory_eq_self {all : List String}
    (hinner : ∀ directory ∈ all.dropLast.drop 1, directory ∉ crateDirectories) : fromCrateDirectory all = all := by
  rw [fromCrateDirectory]
  split
  case isFalse => rfl
  case isTrue hany =>
    obtain ⟨directory, hmem, hdirectory⟩ := List.any_eq_true.mp hany
    rw [List.contains_iff_mem] at hdirectory
    match all with
    | [] => rfl
    | [name] => simp at hmem
    | first :: second :: rest =>
      rw [List.dropLast_cons_cons, List.mem_cons] at hmem
      obtain rfl | hmem := hmem
      · rw [List.dropWhile_cons_of_neg (by simpa using hdirectory)]
      · exact absurd hdirectory (hinner directory (by rwa [List.dropLast_cons_cons]))

/-- The module of a file whose names below the root of its crate are given. -/
def moduleBelow : List String → List String
  | [] => []
  | first :: rest =>
    if crateDirectories.contains first then
      match rest with
      | [] => ofNames [first]
      | [_] => []
      | _ :: rest => ofNames rest
    else ofNames (first :: rest)

theorem ofFile_eq (file : String) : ofFile file = moduleBelow (inCrate (components file)) := rfl

/-- **The module of a file does not depend on where the analysis starts.**  Let a file be named by `file`, relative to
some folder.  If one of its components is `src`, then its module is given by the names after the last `src` alone, also
under a longer name that begins with any other folder.  If none is, and none of its directories is a crate directory
but perhaps the first, then all its names count, and its module is the same with `src/` in front.  In every one of these
names a backslash may stand for a slash. -/
theorem module_independent_of_start {file : String} (hrelative : IsRelative file) :
    ("src" ∈ components file →
      ∃ outer inner, components file = outer ++ "src" :: inner ∧ "src" ∉ inner ∧
        ∀ above whole part, Respelled (above ++ "/" ++ file) whole → Respelled file part →
          ofFile whole = ofFile part ∧ ofFile part = moduleBelow inner) ∧
    ("src" ∉ components file →
      (∀ directory ∈ (components file).dropLast.drop 1, directory ∉ crateDirectories) →
        ∀ whole part, Respelled ("src" ++ "/" ++ file) whole → Respelled file part →
          ofFile whole = ofFile part ∧ ofFile part = moduleBelow (components file)) := by
  refine ⟨fun hsrc => ?_, fun hsrc hinner whole part hwhole hpart => ?_⟩
  · obtain ⟨outer, inner, hfile, hinner⟩ := exists_last_src hsrc
    refine ⟨outer, inner, hfile, hinner, fun above whole part hwhole hpart => ?_⟩
    have hshort : ofFile part = moduleBelow inner := by
      rw [ofFile_eq, hpart.components_eq, hfile, inCrate_of_src outer hinner]
    have hlong : ofFile whole = moduleBelow inner := by
      obtain ⟨further, hbelow⟩ := components_below above hrelative
      rw [ofFile_eq, hwhole.components_eq, hbelow, hfile, ← List.append_assoc, inCrate_of_src _ hinner]
    exact ⟨hlong.trans hshort.symm, hshort⟩
  · have hshort : ofFile part = moduleBelow (components file) := by
      rw [ofFile_eq, hpart.components_eq, inCrate_of_notMem_src hsrc, fromCrateDirectory_eq_self hinner]
    have hlong : ofFile whole = moduleBelow (components file) := by
      rw [ofFile_eq, hwhole.components_eq, components_below_src hrelative]
      exact congrArg moduleBelow (inCrate_of_src [] hsrc)
    exact ⟨hlong.trans hshort.symm, hshort⟩

/-- A crate with a second `src` below its first, named from above it with both kinds of slashes; and a binary of several
files, named from the folder `src`. -/
theorem module_independent_of_start_sample :
    (IsRelative "src/bin/src/net/mod.rs" ∧ "src" ∈ components "src/bin/src/net/mod.rs" ∧
      ofFile "/home\\wire/src/bin\\src/net/mod.rs" = ofFile "src\\bin/src/net/mod.rs" ∧
      ofFile "src\\bin/src/net/mod.rs" = ["net"]) ∧
    (IsRelative "bin/tool/cli.rs" ∧ "src" ∉ components "bin/tool/cli.rs" ∧
      ofFile "src\\bin/tool/cli.rs" = ofFile "bin/tool/cli.rs" ∧ ofFile "bin/tool/cli.rs" = ["cli"]) := by
  have hnet : IsRelative "src/bin/src/net/mod.rs" := by unfold IsRelative; decide
  have hcli : IsRelative "bin/tool/cli.rs" := by unfold IsRelative; decide
  have hsrc : "src" ∈ components "src/bin/src/net/mod.rs" := by decide
  have hnone : "src" ∉ components "bin/tool/cli.rs" := by decide
  obtain ⟨_, _, _, _, hmodule⟩ := (module_independent_of_start hnet).1 hsrc
  have hbelow := (module_independent_of_start hcli).2 hnone (by decide) "src\\bin/tool/cli.rs" "bin/tool/cli.rs"
    (by unfold Respelled; decide) (by unfold Respelled; decide)
  have habove := hmodule "/home\\wire" "/home\\wire/src/bin\\src/net/mod.rs" "src\\bin/src/net/mod.rs"
    (by unfold Respelled; decide) (by unfold Respelled; decide)
  exact ⟨⟨hnet, hsrc, habove.1, by decide⟩, hcli, hnone, hbelow.1, hbelow.2.trans (by decide)⟩

end Deadwood.ModulePath
