/-
Finding the source files below some roots.

A root that is a file is taken if its suffix is `.rs`. A root that is a folder is
walked: folders that never hold sources of the crate, and folders that an
exclusion pattern matches, are not entered; every other file whose name ends in
`.rs` is taken unless a pattern matches it. Patterns are compared with the path
from the root. The files come in the order of their paths, each once.

The walk goes by names. It lists the folders in a folder, strikes those off the list
that are not to be entered, going through a copy of it, and then enters what is left.
-/
import Deadwood.Files.Tree
import Deadwood.Glob

namespace Deadwood

namespace Scan

/-- Names of folders that hold no sources of the crate itself. -/
def skippedFolders : List String := ["target", ".git", "node_modules", ".cargo"]

/-- What the name of a source file ends in. -/
def sourceSuffix : String := ".rs"

/-- Whether a pattern matches the names that lead from a root to an entry. -/
def isExcluded (patterns : List String) (names : List String) : Bool :=
  patterns.any fun pattern => globMatches pattern ("/".intercalate names)

/-- Whether a file with this name is a source file. -/
def isSourceName (name : String) : Bool :=
  sourceSuffix.toList.isSuffixOf name.toList

/-- Whether a file to which `names` lead from the root is taken. -/
def isTaken (patterns : List String) (names : List String) : Bool :=
  isSourceName (names.getLastD "") && !isExcluded patterns names

/-- Whether a folder to which `names` lead from the root is left out. -/
def isSkipped (patterns : List String) (names : List String) : Bool :=
  skippedFolders.contains (names.getLastD "") || isExcluded patterns names

/-! ### The folders that are entered -/

/-- Strikes a name off a list. There is no answer if it does not stand there. -/
def strike? (name : String) (folders : List String) : Option (List String) :=
  if folders.contains name then some (folders.erase name) else none

/-- Goes through a copy of a list of folders, and strikes those off the list that are left out. -/
def prune? (patterns names folders : List String) : Option (List String) :=
  folders.foldlM (fun left name =>
    if isSkipped patterns (names ++ [name]) then strike? name left else some left) folders

/-- While the copy is gone through, what was passed has been sorted out and what is to come is still on the list. -/
theorem foldlM_strike? (skip : String → Bool) (passed folders : List String) :
    folders.foldlM (fun left name => if skip name then strike? name left else some left)
        (passed.filter (!skip ·) ++ folders) =
      some ((passed ++ folders).filter (!skip ·)) := by
  induction folders generalizing passed with
  | nil => simp
  | cons name rest ih =>
    have hrest := ih (passed ++ [name])
    rw [List.append_assoc, List.singleton_append, List.filter_append] at hrest
    rw [List.foldlM_cons]
    cases hskip : skip name with
    | false =>
      rw [List.filter_cons_of_pos (by simp [hskip]), List.filter_nil, List.append_assoc] at hrest
      exact hrest
    | true =>
      rw [List.filter_cons_of_neg (by simp [hskip]), List.filter_nil, List.append_nil] at hrest
      -- What was passed and kept has other names, so it is this occurrence that is struck off.
      have hkept : name ∉ passed.filter (!skip ·) := by simp [hskip]
      have hstrike : strike? name (passed.filter (!skip ·) ++ name :: rest) =
          some (passed.filter (!skip ·) ++ rest) := by
        rw [strike?, if_pos (by simp), List.erase_append_right _ hkept, List.erase_cons_head]
      rw [if_pos rfl, hstrike]
      exact hrest

/-- What is left on the list are the folders that are not left out. -/
theorem prune?_eq (patterns names folders : List String) :
    prune? patterns names folders = some (folders.filter fun name => !isSkipped patterns (names ++ [name])) :=
  foldlM_strike? _ [] folders

/-- The folders among some that are entered. -/
def prune (patterns names folders : List String) : List String :=
  (prune? patterns names folders).get (by rw [prune?_eq]; rfl)

theorem prune_eq (patterns names folders : List String) :
    prune patterns names folders = folders.filter fun name => !isSkipped patterns (names ++ [name]) :=
  Option.get_of_eq_some _ (prune?_eq patterns names folders)

/-! ### Walking -/

/-- The names of the entries of one kind. -/
def namesOf (kind : Entry → Bool) (entries : List (String × Entry)) : List String :=
  (entries.filter fun entry => kind entry.2).map (·.1)

theorem sizeOf_child? {entries : List (String × Entry)} {name : String} {child : Entry}
    (h : (Entry.folder entries).child? name = some child) : sizeOf child < sizeOf (Entry.folder entries) := by
  obtain ⟨entry, hfind, rfl⟩ := Option.map_eq_some_iff.mp h
  have hentry := List.sizeOf_lt_of_mem (List.mem_of_find?_eq_some hfind)
  obtain ⟨name, child⟩ := entry
  simp only [Prod.mk.sizeOf_spec] at hentry
  simp only [Entry.folder.sizeOf_spec]
  omega

/-- The source files in a folder to which `names` lead from the root, and in the folders that are entered from it. -/
def walk (patterns : List String) (names : List String) : Entry → List (List String)
  | .file _ => []
  | .folder entries =>
    let files := namesOf (!·.isFolder) entries
    let folders := prune patterns names (namesOf (·.isFolder) entries)
    (files.map fun name => names ++ [name]).filter (isTaken patterns) ++
      folders.flatMap fun name =>
        match _h : (Entry.folder entries).child? name with
        | some child => walk patterns (names ++ [name]) child
        | none => []
termination_by entry => sizeOf entry
decreasing_by exact sizeOf_child? _h

/-- The source files of one root. -/
def ofRoot (tree : Tree) (patterns : List String) (root : Path) : List Path :=
  match tree.get? root with
  | none => []
  | some (.file _) => if root.suffix == sourceSuffix then [root] else []
  | some (.folder entries) => (walk patterns [] (.folder entries)).map root.below

end Scan

/-- The source files of several roots. -/
def Tree.sourceFiles (tree : Tree) (roots : List Path) (patterns : List String) : List Path :=
  ((roots.flatMap (Scan.ofRoot tree patterns)).mergeSort Path.le).eraseDups

/-- The source files of several roots, of each of which it can be told what it is. -/
def Tree.scan (tree : Tree) (roots : List Path) (patterns : List String) : Except PathError (List Path) := do
  let _ ← roots.mapM tree.probe
  return tree.sourceFiles roots patterns

end Deadwood
