/-
Which files a scan finds.

The files are described apart from the walk that finds them: whether a file below a root is
found is a matter of its name and of the folders on the way to it (`Scan.Below`).

* **`Scan.mem_walk`** — the walk, which enters the folders that are left on its lists, finds
  these files and no others;
* **`Path.components_injective`** — components determine a path, so a list that is sorted
  by them and has no repetitions is strictly increasing;
* **`Tree.probe_eq_error_iff`** — only one thing stops a scan: a root of which it cannot be
  told what stands there, since a name is too long to be looked for (`Tree.IsTooLong`);
* **`Tree.scan_finds_admissible`** — hence a scan fails for such a root, and otherwise finds
  exactly the admissible files, in order.
-/
import Deadwood.Files.Scan
import Deadwood.Proofs.Closure
import Deadwood.Proofs.Computations

namespace Deadwood

/-! ### Trees of files -/

/-- A tree of files as it can stand on a disk: in each folder a name has no slash in it and stands for one entry. -/
inductive Entry.WellFormed : Entry → Prop where
  | file (bytes : List UInt8) : WellFormed (.file bytes)
  | folder {entries : List (String × Entry)} (hnames : ∀ entry ∈ entries, '/' ∉ entry.1.toList)
      (hdistinct : (entries.map (·.1)).Nodup) (hentries : ∀ entry ∈ entries, WellFormed entry.2) :
    WellFormed (.folder entries)

/-- A working directory and what is outside, as they can stand on a disk. -/
structure Tree.WellFormed (tree : Tree) : Prop where
  top : tree.top.WellFormed
  outside : tree.outside.WellFormed

namespace Entry

theorem induct {P : Entry → Prop} (file : ∀ bytes, P (.file bytes))
    (folder : ∀ entries : List (String × Entry), (∀ entry ∈ entries, P entry.2) → P (.folder entries)) (entry : Entry) :
    P entry :=
  @Entry.rec P (fun entries => ∀ entry ∈ entries, P entry.2) (fun entry => P entry.2) file folder
    (fun _ hmem => absurd hmem List.not_mem_nil) (fun _ _ hhead htail => List.forall_mem_cons.mpr ⟨hhead, htail⟩)
    (fun _ _ h => h) entry

variable {entries : List (String × Entry)} {name : String} {entry child : Entry}

theorem wellFormed_folder : (Entry.folder entries).WellFormed ↔ (∀ entry ∈ entries, '/' ∉ entry.1.toList) ∧
    (entries.map (·.1)).Nodup ∧ ∀ entry ∈ entries, entry.2.WellFormed := by
  constructor
  · rintro (_ | ⟨hnames, hdistinct, hentries⟩)
    exact ⟨hnames, hdistinct, hentries⟩
  · rintro ⟨hnames, hdistinct, hentries⟩
    exact .folder hnames hdistinct hentries

theorem child?_folder (hdistinct : (entries.map (·.1)).Nodup) :
    (Entry.folder entries).child? name = some child ↔ (name, child) ∈ entries := by
  rw [Entry.child?, Option.map_eq_some_iff]
  constructor
  · rintro ⟨⟨key, found⟩, hfind, rfl⟩
    obtain rfl : key = name := by simpa using List.find?_some hfind
    exact List.mem_of_find?_eq_some hfind
  · intro hmem
    induction entries with
    | nil => exact absurd hmem List.not_mem_nil
    | cons entry entries ih =>
      obtain ⟨hhead, htail⟩ := List.nodup_cons.mp hdistinct
      obtain rfl | hmem := List.mem_cons.mp hmem
      · exact ⟨(name, child), List.find?_cons_of_pos (by simp), rfl⟩
      · have hne : entry.1 ≠ name := by
          rintro rfl
          exact hhead (List.mem_map.mpr ⟨_, hmem, rfl⟩)
        rw [List.find?_cons_of_neg (by simpa using hne)]
        exact ih htail hmem

theorem WellFormed.child? (h : entry.WellFormed) (hchild : entry.child? name = some child) : child.WellFormed := by
  cases entry with
  | file bytes => exact absurd hchild (by simp [Entry.child?])
  | folder entries =>
    obtain ⟨-, hdistinct, hentries⟩ := wellFormed_folder.mp h
    exact hentries _ ((child?_folder hdistinct).mp hchild)

theorem WellFormed.get? (h : entry.WellFormed) {names : List String} (hget : entry.get? names = some child) :
    child.WellFormed := by
  induction names generalizing entry with
  | nil => exact Option.some.inj hget ▸ h
  | cons name names ih =>
    obtain ⟨next, hnext, hget⟩ := Option.bind_eq_some_iff.mp hget
    exact ih (h.child? hnext) hget

theorem WellFormed.slash_notMem (h : entry.WellFormed) {names : List String} (hget : entry.get? names = some child) :
    ∀ name ∈ names, '/' ∉ name.toList := by
  induction names generalizing entry with
  | nil => simp
  | cons name names ih =>
    obtain ⟨next, hnext, hget⟩ := Option.bind_eq_some_iff.mp hget
    refine List.forall_mem_cons.mpr ⟨?_, ih (h.child? hnext) hget⟩
    cases entry with
    | file bytes => exact absurd hnext (by simp [Entry.child?])
    | folder entries =>
      obtain ⟨hnames, hdistinct, -⟩ := wellFormed_folder.mp h
      exact hnames _ ((child?_folder hdistinct).mp hnext)

end Entry

namespace Tree

variable {tree : Tree} {path : Path}

theorem lookup_of_error {error : PathError} (h : tree.locate path = .error error) :
    tree.lookup path = .error error := by
  rw [lookup, h]
  rfl

theorem lookup_of_ok {place : Place} (h : tree.locate path = .ok place) :
    tree.lookup path = (tree.entryAt? place).elim (.error .missing) .ok := by
  rw [lookup, h]
  simp only [bind, Except.bind]
  cases tree.entryAt? place with
  | none => rfl
  | some entry => rfl

theorem exists_entryAt? {entry : Entry} (hget : tree.get? path = some entry) :
    ∃ place, tree.entryAt? place = some entry := by
  rw [Tree.get?] at hget
  cases hlocate : tree.locate path with
  | error error =>
    rw [lookup_of_error hlocate] at hget
    exact absurd hget (by simp [Except.toOption])
  | ok place =>
    rw [lookup_of_ok hlocate] at hget
    refine ⟨place, ?_⟩
    cases hentry : tree.entryAt? place with
    | none => exact absurd hget (by simp [hentry, Except.toOption])
    | some found => rw [hentry] at hget; exact hget

end Tree

theorem Tree.WellFormed.get? {tree : Tree} (h : tree.WellFormed) {path : Path} {entry : Entry}
    (hget : tree.get? path = some entry) : entry.WellFormed := by
  obtain ⟨place, hplace⟩ := Tree.exists_entryAt? hget
  rw [Tree.entryAt?] at hplace
  split at hplace
  · exact h.outside.get? hplace
  · exact h.top.get? hplace

namespace Scan

variable {patterns names : List String}

/-- A folder that a scan goes into. -/
def Entered (patterns names : List String) : Prop :=
  names.getLastD "" ∉ skippedFolders ∧ ∀ pattern ∈ patterns, globMatches pattern ("/".intercalate names) = false

/-- A source file that no pattern matches. -/
def Taken (patterns names : List String) : Prop :=
  sourceSuffix.toList <:+ (names.getLastD "").toList ∧
    ∀ pattern ∈ patterns, globMatches pattern ("/".intercalate names) = false

/-- Some names lead from an entry to a source file, through folders that a scan goes into. Patterns are compared with
the names from the root, of which `names` lead to the entry. -/
def Below (patterns names : List String) (entry : Entry) (rest : List String) : Prop :=
  (∃ bytes, entry.get? rest = some (.file bytes)) ∧ Taken patterns (names ++ rest) ∧
    ∀ outer inner, rest = outer ++ inner → outer ≠ [] → inner ≠ [] → Entered patterns (names ++ outer)

theorem isTaken_iff : isTaken patterns names = true ↔ Taken patterns names := by
  simp [isTaken, Taken, isExcluded, isSourceName]

theorem not_isSkipped_iff : (!isSkipped patterns names) = true ↔ Entered patterns names := by
  simp [isSkipped, Entered, isExcluded]

theorem below_file {bytes : List UInt8} {rest : List String} :
    Below patterns names (.file bytes) rest ↔ rest = [] ∧ Taken patterns names := by
  constructor
  · rintro ⟨⟨found, hget⟩, htaken, -⟩
    cases rest with
    | nil => exact ⟨rfl, by rwa [List.append_nil] at htaken⟩
    | cons name rest => exact absurd hget (by simp [Entry.get?, Entry.child?])
  · rintro ⟨rfl, htaken⟩
    refine ⟨⟨bytes, rfl⟩, by rwa [List.append_nil], fun outer inner hsplit _ hinner => ?_⟩
    exact absurd (List.append_eq_nil_iff.mp hsplit.symm).2 hinner

/-- The way to a file below a folder leads through one of its entries, which is a folder that is entered unless it is
the file. -/
theorem below_folder {entries : List (String × Entry)} (hdistinct : (entries.map (·.1)).Nodup) {rest : List String} :
    Below patterns names (.folder entries) rest ↔ ∃ entry ∈ entries, ∃ more, rest = entry.1 :: more ∧
      Below patterns (names ++ [entry.1]) entry.2 more ∧ (more ≠ [] → Entered patterns (names ++ [entry.1])) := by
  constructor
  · rintro ⟨⟨bytes, hget⟩, htaken, hentered⟩
    cases rest with
    | nil => exact absurd hget (by simp [Entry.get?])
    | cons name more =>
      obtain ⟨child, hchild, hget⟩ := Option.bind_eq_some_iff.mp hget
      have hmem := (Entry.child?_folder hdistinct).mp hchild
      refine ⟨(name, child), hmem, more, rfl, ⟨⟨bytes, hget⟩, ?_, fun outer inner hmore _ hinner => ?_⟩,
        fun hmore => ?_⟩
      · rwa [List.append_assoc]
      · rw [List.append_assoc]
        exact hentered (name :: outer) inner (congrArg (name :: ·) hmore) (List.cons_ne_nil _ _) hinner
      · exact hentered [name] more rfl (List.cons_ne_nil _ _) hmore
  · rintro ⟨⟨name, child⟩, hmem, more, rfl, ⟨⟨bytes, hget⟩, htaken, hentered⟩, hhere⟩
    refine ⟨⟨bytes, ?_⟩, ?_, fun outer inner hsplit houter hinner => ?_⟩
    · rw [Entry.get?, (Entry.child?_folder hdistinct).mpr hmem]
      exact hget
    · rwa [List.append_assoc] at htaken
    · obtain ⟨first, outer, rfl⟩ := List.exists_cons_of_ne_nil houter
      obtain ⟨rfl, hmore⟩ := List.cons.inj hsplit
      cases outer with
      | nil => exact hhere (hmore ▸ hinner)
      | cons second outer =>
        have hinside := hentered (second :: outer) inner hmore (List.cons_ne_nil _ _) hinner
        rwa [List.append_assoc] at hinside

theorem mem_namesOf {kind : Entry → Bool} {entries : List (String × Entry)} {name : String} :
    name ∈ namesOf kind entries ↔ ∃ entry, (name, entry) ∈ entries ∧ kind entry = true := by
  rw [namesOf, List.mem_map]
  constructor
  · rintro ⟨⟨name, entry⟩, hfilter, rfl⟩
    exact ⟨entry, List.mem_filter.mp hfilter⟩
  · rintro ⟨entry, hentry⟩
    exact ⟨(name, entry), List.mem_filter.mpr hentry, rfl⟩

theorem mem_prune {folders : List String} {name : String} :
    name ∈ prune patterns names folders ↔ name ∈ folders ∧ Entered patterns (names ++ [name]) := by
  rw [prune_eq, List.mem_filter, not_isSkipped_iff]

/-- What is found in a folder is one of its own files, or is found in a folder that is entered from it. -/
theorem mem_walk_folder {entries : List (String × Entry)} (hdistinct : (entries.map (·.1)).Nodup)
    {found : List String} : found ∈ walk patterns names (.folder entries) ↔
      (∃ name bytes, (name, .file bytes) ∈ entries ∧ Taken patterns (names ++ [name]) ∧ found = names ++ [name]) ∨
      ∃ name inner, (name, .folder inner) ∈ entries ∧ Entered patterns (names ++ [name]) ∧
        found ∈ walk patterns (names ++ [name]) (.folder inner) := by
  rw [walk, List.mem_append, List.mem_filter, isTaken_iff, List.mem_map, List.mem_flatMap]
  refine or_congr ⟨?_, ?_⟩ ⟨?_, ?_⟩
  · rintro ⟨⟨name, hname, rfl⟩, htaken⟩
    obtain ⟨bytes | inner, hentry, hkind⟩ := mem_namesOf.mp hname
    · exact ⟨name, bytes, hentry, htaken, rfl⟩
    · exact absurd hkind (by simp [Entry.isFolder])
  · rintro ⟨name, bytes, hentry, htaken, rfl⟩
    exact ⟨⟨name, mem_namesOf.mpr ⟨_, hentry, rfl⟩, rfl⟩, htaken⟩
  · rintro ⟨name, hname, hfound⟩
    obtain ⟨hfolder, hentered⟩ := mem_prune.mp hname
    obtain ⟨bytes | inner, hentry, hkind⟩ := mem_namesOf.mp hfolder
    · exact absurd hkind (by simp [Entry.isFolder])
    · -- The name that is left leads back to the folder that it was listed for.
      rw [(Entry.child?_folder hdistinct).mpr hentry] at hfound
      exact ⟨name, inner, hentry, hentered, hfound⟩
  · rintro ⟨name, inner, hentry, hentered, hfound⟩
    refine ⟨name, mem_prune.mpr ⟨mem_namesOf.mpr ⟨_, hentry, rfl⟩, hentered⟩, ?_⟩
    rw [(Entry.child?_folder hdistinct).mpr hentry]
    exact hfound

/-- What a walk finds: nothing at a file, and in a folder the files below it. -/
theorem mem_walk {entry : Entry} (hentry : entry.WellFormed) {found : List String} :
    found ∈ walk patterns names entry ↔
      entry.isFolder = true ∧ ∃ rest, found = names ++ rest ∧ Below patterns names entry rest := by
  -- On the tree. The names that lead to the entry and the file that is looked for change on the way down.
  induction entry using Entry.induct generalizing names found with
  | file bytes => simp [walk, Entry.isFolder]
  | folder entries ih =>
    obtain ⟨-, hdistinct, hentries⟩ := Entry.wellFormed_folder.mp hentry
    rw [mem_walk_folder hdistinct]
    constructor
    · rintro (⟨name, bytes, hmem, htaken, rfl⟩ | ⟨name, inner, hmem, hentered, hfound⟩)
      · refine ⟨rfl, [name], rfl, (below_folder hdistinct).mpr ⟨_, hmem, [], rfl, ?_, fun hne => absurd rfl hne⟩⟩
        exact below_file.mpr ⟨rfl, htaken⟩
      · obtain ⟨-, more, rfl, hbelow⟩ := (ih _ hmem (hentries _ hmem)).mp hfound
        refine ⟨rfl, name :: more, by rw [List.append_assoc]; rfl, ?_⟩
        exact (below_folder hdistinct).mpr ⟨_, hmem, more, rfl, hbelow, fun _ => hentered⟩
    · rintro ⟨-, rest, rfl, hbelow⟩
      obtain ⟨⟨name, child⟩, hmem, more, rfl, hmore, hentered⟩ := (below_folder hdistinct).mp hbelow
      cases child with
      | file bytes =>
        obtain ⟨rfl, htaken⟩ := below_file.mp hmore
        exact .inl ⟨name, bytes, hmem, htaken, rfl⟩
      | folder inner =>
        have hne : more ≠ [] := by
          rintro rfl
          obtain ⟨⟨bytes, hget⟩, -⟩ := hmore
          exact absurd hget (by simp [Entry.get?])
        refine .inr ⟨name, inner, hmem, hentered hne, (ih _ hmem (hentries _ hmem)).mpr ⟨rfl, more, ?_, hmore⟩⟩
        rw [List.append_assoc]
        rfl

/-- A file that a scan of one root finds: the root itself, or a file below it. -/
def Admissible (tree : Tree) (patterns : List String) (root file : Path) : Prop :=
  (∃ bytes, tree.get? root = some (.file bytes) ∧ root.suffix = sourceSuffix ∧ file = root) ∨
  ∃ entries names, tree.get? root = some (.folder entries) ∧ file = root.below names ∧
    Below patterns [] (.folder entries) names

theorem mem_ofRoot {tree : Tree} (htree : tree.WellFormed) {root file : Path} :
    file ∈ ofRoot tree patterns root ↔ Admissible tree patterns root file := by
  unfold ofRoot Admissible
  rcases hroot : tree.get? root with _ | (bytes | entries)
  · simp
  · by_cases hsuffix : root.suffix = sourceSuffix
    · simp [hsuffix]
    · simp [hsuffix]
  · have hfiles : ∀ found, found ∈ walk patterns [] (.folder entries) ↔ Below patterns [] (.folder entries) found := by
      intro found
      rw [mem_walk (htree.get? hroot)]
      simp [Entry.isFolder]
    simp only [List.mem_map, hfiles]
    constructor
    · rintro ⟨names, hbelow, rfl⟩
      exact .inr ⟨entries, names, rfl, rfl, hbelow⟩
    · rintro (⟨bytes, hfile, -⟩ | ⟨_, names, hfolder, rfl, hbelow⟩)
      · exact absurd hfile (by simp)
      · obtain rfl := Entry.folder.inj (Option.some.inj hfolder)
        exact ⟨names, hbelow, rfl⟩

end Scan

namespace Path

/-- No name of a path has a slash in it, and its root is one of three. -/
structure Proper (path : Path) : Prop where
  root : path.root ∈ ["", "/", "//"]
  names : ∀ name ∈ path.names, '/' ∉ name.toList

theorem slash_notMem_splitOn {chars piece : List Char} (h : piece ∈ chars.splitOn '/') : '/' ∉ piece := by
  rw [List.splitOn] at h
  induction chars generalizing piece with
  | nil =>
    rw [List.splitOnP_nil, List.mem_singleton] at h
    simp [h]
  | cons c chars ih =>
    rw [List.splitOnP_cons_eq_if_modifyHead] at h
    split at h
    · obtain rfl | h := List.mem_cons.mp h
      · exact List.not_mem_nil
      · exact ih h
    · next hc =>
      obtain ⟨first, rest, hsplit⟩ := List.exists_cons_of_ne_nil (List.splitOnP_ne_nil (· == '/') chars)
      rw [hsplit] at h ih
      obtain rfl | h := List.mem_cons.mp h
      · rw [List.mem_cons, not_or]
        exact ⟨fun hslash => hc (by simp [← hslash]), ih List.mem_cons_self⟩
      · exact ih (List.mem_cons_of_mem _ h)

theorem proper_ofText (text : String) : (ofText text).Proper := by
  refine ⟨?_, ?_⟩
  · show rootOf text.toList ∈ _
    rw [rootOf]
    split <;> decide
  · intro name hname
    obtain ⟨hname, -⟩ := List.mem_filter.mp hname
    obtain ⟨piece, hpiece, rfl⟩ := List.mem_map.mp hname
    rw [String.toList_ofList]
    exact slash_notMem_splitOn hpiece

theorem ofText_of_notMem {chars : List Char} (hslash : '/' ∉ chars) (hempty : chars ≠ []) (hdot : chars ≠ ['.']) :
    ofText (String.ofList chars) = { names := [String.ofList chars] } := by
  have hother : ∀ c ∈ chars, (c == '/') = false := by
    intro c hc
    rw [beq_eq_false_iff_ne]
    rintro rfl
    exact hslash hc
  have hroot : rootOf chars = "" := by
    obtain ⟨c, chars, rfl⟩ := List.exists_cons_of_ne_nil hempty
    simp [rootOf, hother c List.mem_cons_self]
  have hsplit : chars.splitOn '/' = [chars] :=
    List.splitOnP_eq_singleton fun c hc => by simp [hother c hc]
  have hkept : (String.ofList chars != "" && String.ofList chars != ".") = true := by
    simp [← String.toList_inj, hempty, hdot]
  simp only [ofText, String.toList_ofList, hroot, hsplit, List.map_cons, List.map_nil, List.filter_cons, hkept, if_true,
    List.filter_nil]

/-- Letters are written with a byte each. -/
theorem bytes?_replicate (n : Nat) : bytes? (String.ofList (List.replicate n 'n')) = some (List.replicate n 110) := by
  have hchars : List.replicate n 'n' = Text.charsOf (List.replicate n (.char 'n')) := by
    induction n with
    | zero => rfl
    | succ n ih =>
      rw [List.replicate_succ, ih]
      rfl
  have hmapM : ∀ n, (List.replicate n (Point.char 'n')).mapM Utf8.keptBytes? = some (List.replicate n [110]) := by
    intro n
    induction n with
    | zero => rfl
    | succ n ih =>
      rw [List.replicate_succ, List.mapM_cons, ih]
      rfl
  rw [bytes?, Utf8.encodeKept?, Text.points, String.toList_ofList, hchars, Text.pointsOf_charsOf, hmapM]
  simp

theorem text_of_name {name : String} : text { names := [name] } = name := by
  simp [text]

theorem Proper.below {path : Path} (h : path.Proper) {names : List String}
    (hnames : ∀ name ∈ names, '/' ∉ name.toList) : (path.below names).Proper :=
  ⟨h.root, fun name hname => (List.mem_append.mp hname).elim (h.names name) (hnames name)⟩

theorem Proper.slash_mem_root {path : Path} (h : path.Proper) (hroot : path.root ≠ "") : '/' ∈ path.root.toList := by
  have hmem := h.root
  simp only [List.mem_cons, List.not_mem_nil, or_false] at hmem
  obtain hempty | hone | htwo := hmem
  · exact absurd hempty hroot
  · rw [hone]; decide
  · rw [htwo]; decide

/-- The components of a path tell its root from a name, since only a root has slashes. -/
theorem components_injective {a b : Path} (ha : a.Proper) (hb : b.Proper) (h : a.components = b.components) :
    a = b := by
  have hroot_notMem : ∀ {path other : Path}, path.Proper → other.Proper → other.root ≠ "" →
      path.names ≠ other.root :: other.names := by
    intro path other hpath hother hroot hnames
    have hmem : other.root ∈ path.names := by rw [hnames]; exact List.mem_cons_self
    exact hpath.names _ hmem (hother.slash_mem_root hroot)
  obtain ⟨aroot, anames⟩ := a
  obtain ⟨broot, bnames⟩ := b
  by_cases haroot : aroot = "" <;> by_cases hbroot : broot = "" <;>
    simp only [components, haroot, hbroot, beq_self_eq_true, beq_iff_eq, if_true, if_false] at h
  · rw [haroot, hbroot, h]
  · exact absurd h (hroot_notMem ha hb hbroot)
  · exact absurd h.symm (hroot_notMem hb ha haroot)
  · obtain ⟨hroots, hnames⟩ := List.cons.inj h
    rw [hroots, hnames]

theorem le_iff {a b : Path} : a.le b = true ↔ ¬ b.components < a.components := by
  simp [le]

theorem le_trans (a b c : Path) (hab : a.le b = true) (hbc : b.le c = true) : a.le c = true :=
  le_iff.mpr (List.le_trans (le_iff.mp hab) (le_iff.mp hbc))

theorem le_total (a b : Path) : (a.le b || b.le a) = true := by
  rw [Bool.or_eq_true, le_iff, le_iff]
  exact List.le_total a.components b.components

end Path

theorem Scan.Admissible.proper {tree : Tree} {patterns : List String} {root file : Path} (htree : tree.WellFormed)
    (hroot : root.Proper) (h : Scan.Admissible tree patterns root file) : file.Proper := by
  obtain ⟨bytes, -, -, rfl⟩ | ⟨entries, names, hfolder, rfl, hbelow⟩ := h
  · exact hroot
  · obtain ⟨⟨bytes, hget⟩, -⟩ := hbelow
    exact hroot.below ((htree.get? hfolder).slash_notMem hget)

namespace Tree

variable {tree : Tree} {roots : List Path} {patterns : List String}

theorem mem_sourceFiles (htree : tree.WellFormed) {file : Path} :
    file ∈ tree.sourceFiles roots patterns ↔ ∃ root ∈ roots, Scan.Admissible tree patterns root file := by
  simp only [sourceFiles, List.mem_eraseDups, List.mem_mergeSort, List.mem_flatMap, Scan.mem_ofRoot htree]

/-- The files of a scan come in the order of their components, each once. -/
theorem pairwise_sourceFiles (hproper : ∀ file ∈ tree.sourceFiles roots patterns, file.Proper) :
    (tree.sourceFiles roots patterns).Pairwise fun a b => a.components < b.components := by
  have hsorted : (tree.sourceFiles roots patterns).Pairwise fun a b => a.le b = true :=
    (List.pairwise_mergeSort Path.le_trans Path.le_total _).sublist (eraseDups_sublist _)
  have hdistinct : (tree.sourceFiles roots patterns).Nodup := nodup_eraseDups _
  -- Sorted and distinct is strict only because different files have different components.
  refine (hsorted.and hdistinct).imp_of_mem fun {a b} ha hb hab => ?_
  have hne : a.components ≠ b.components := fun h => hab.2 (Path.components_injective (hproper a ha) (hproper b hb) h)
  exact Classical.byContradiction fun hnot => hne (List.le_antisymm (Path.le_iff.mp hab.1) hnot)

/-- What stands at a path cannot be told: the path has too many bytes, or a name with too many is looked for in a
folder. -/
inductive IsTooLong (tree : Tree) (path : Path) : Prop where
  | path (hfault : path.fault? = some .tooLong)
  | name {before after : List String} {name : String} {place : Place} {entries : List (String × Entry)}
      (hfault : path.fault? = none) (hnames : path.names = before ++ name :: after)
      (hreached : before.foldlM tree.step path.start = .ok place)
      (hfolder : tree.entryAt? place = some (.folder entries)) (hlong : Path.nameLimit < Path.byteCount name)

theorem step_eq_tooLong_iff {place : Place} {name : String} :
    tree.step place name = .error .tooLong ↔
      (∃ entries, tree.entryAt? place = some (.folder entries)) ∧ Path.nameLimit < Path.byteCount name := by
  rw [step]
  rcases tree.entryAt? place with _ | (bytes | entries)
  · simp
  · simp
  · by_cases hup : name = ".."
    · have hshort : ¬ Path.nameLimit < Path.byteCount ".." := by decide
      simp [hup, hshort]
    · by_cases hlong : Path.nameLimit < Path.byteCount name
      · simp [hup, hlong]
      · simp [hup, hlong]

theorem locate_eq_tooLong_iff {path : Path} : tree.locate path = .error .tooLong ↔ tree.IsTooLong path := by
  rw [locate]
  cases hfault : path.fault? with
  | some error =>
    constructor
    · intro h
      cases h
      exact .path hfault
    · rintro (hpath | ⟨hnone, -⟩)
      · rw [Option.some.inj (hfault.symm.trans hpath)]
      · exact absurd (hfault.symm.trans hnone) (by simp)
  | none =>
    show path.names.foldlM tree.step path.start = .error .tooLong ↔ _
    rw [foldlM_eq_error_iff]
    constructor
    · rintro ⟨before, name, after, place, hnames, hreached, hstep⟩
      obtain ⟨⟨entries, hfolder⟩, hlong⟩ := step_eq_tooLong_iff.mp hstep
      exact .name hfault hnames hreached hfolder hlong
    · rintro (hpath | ⟨-, hnames, hreached, hfolder, hlong⟩)
      · exact absurd (hfault.symm.trans hpath) (by simp)
      · exact ⟨_, _, _, _, hnames, hreached, step_eq_tooLong_iff.mpr ⟨⟨_, hfolder⟩, hlong⟩⟩

theorem lookup_eq_tooLong_iff {path : Path} : tree.lookup path = .error .tooLong ↔ tree.IsTooLong path := by
  rw [← locate_eq_tooLong_iff]
  cases hlocate : tree.locate path with
  | error error => simp [lookup_of_error hlocate]
  | ok place =>
    rw [lookup_of_ok hlocate]
    cases tree.entryAt? place <;> simp

theorem probe_eq_error_iff {path : Path} {error : PathError} :
    tree.probe path = .error error ↔ error = .tooLong ∧ tree.IsTooLong path := by
  rw [← lookup_eq_tooLong_iff]
  unfold probe
  split
  · next h => simp [h, eq_comm]
  · next h => simpa using fun _ => h

theorem scan_of_tooLong (h : ∃ root ∈ roots, tree.IsTooLong root) : tree.scan roots patterns = .error .tooLong := by
  have hprobe : roots.mapM tree.probe = .error .tooLong := by
    rw [mapM_eq_error_iff_of_unique fun root error h => (probe_eq_error_iff.mp h).1]
    obtain ⟨root, hroot, hlong⟩ := h
    exact ⟨root, hroot, probe_eq_error_iff.mpr ⟨rfl, hlong⟩⟩
  rw [scan, hprobe]
  rfl

theorem scan_of_short (h : ∀ root ∈ roots, ¬ tree.IsTooLong root) :
    tree.scan roots patterns = .ok (tree.sourceFiles roots patterns) := by
  have hprobe : ∃ entries, roots.mapM tree.probe = .ok entries := by
    refine exists_mapM_ok fun root hroot => ?_
    cases hfound : tree.probe root with
    | ok found => exact ⟨found, rfl⟩
    | error error => exact absurd (probe_eq_error_iff.mp hfound).2 (h root hroot)
  obtain ⟨entries, hprobe⟩ := hprobe
  rw [scan, hprobe]
  rfl

/-- **A scan finds exactly the admissible files.**  Whatever the tree, the roots and the patterns are, a root that is
too long stops the scan, though nothing stands there.  Otherwise the files that are found are those that are admissible
from some root, each once, in the order of their components. -/
theorem scan_finds_admissible {tree : Tree} (htree : tree.WellFormed) (roots patterns : List String) :
    (∃ root ∈ roots, tree.IsTooLong (.ofText root)) ∧ tree.scan (roots.map .ofText) patterns = .error .tooLong ∨
    (∀ root ∈ roots, ¬ tree.IsTooLong (.ofText root)) ∧
      ∃ files, tree.scan (roots.map .ofText) patterns = .ok files ∧
        files.Pairwise (fun a b => a.components < b.components) ∧
        ∀ file, file ∈ files ↔ ∃ root ∈ roots, Scan.Admissible tree patterns (.ofText root) file := by
  by_cases hlong : ∃ root ∈ roots, tree.IsTooLong (.ofText root)
  · exact .inl ⟨hlong, scan_of_tooLong (by simpa using hlong)⟩
  · have hshort : ∀ root ∈ roots, ¬ tree.IsTooLong (.ofText root) := fun root hroot h => hlong ⟨root, hroot, h⟩
    have hmem : ∀ file, file ∈ tree.sourceFiles (roots.map .ofText) patterns ↔
        ∃ root ∈ roots, Scan.Admissible tree patterns (.ofText root) file := by
      intro file
      simp [mem_sourceFiles htree]
    refine .inr ⟨hshort, _, scan_of_short (by simpa using hshort), pairwise_sourceFiles fun file hfile => ?_, hmem⟩
    obtain ⟨root, -, hfound⟩ := (hmem file).mp hfile
    exact hfound.proper htree (Path.proper_ofText root)

/-- A folder with a source and a folder that is not entered. -/
def builtCrate : Tree :=
  { top := .folder [("src", .folder [("a.rs", .file []), ("target", .folder [("b.rs", .file [])])])] }

theorem wellFormed_builtCrate : builtCrate.WellFormed := by
  refine ⟨?_, ?_⟩
  · simp [builtCrate, Entry.wellFormed_folder, Entry.WellFormed.file]
  · simp [builtCrate, Entry.wellFormed_folder]

theorem scan_finds_admissible_overlap :
    builtCrate.WellFormed ∧ ∃ files, builtCrate.scan (["src", "src/a.rs", "gone"].map .ofText) ["a"] = .ok files ∧
      files.Pairwise (fun a b => a.components < b.components) ∧ .ofText "src/a.rs" ∈ files := by
  refine ⟨wellFormed_builtCrate, ?_⟩
  have hshort : ∀ root ∈ ["src", "src/a.rs", "gone"], ¬ builtCrate.IsTooLong (.ofText root) := by
    simp only [← locate_eq_tooLong_iff]
    decide
  obtain ⟨⟨root, hroot, hlong⟩, -⟩ | ⟨-, files, hscan, hsorted, hmem⟩ :=
    scan_finds_admissible wellFormed_builtCrate ["src", "src/a.rs", "gone"] ["a"]
  · exact absurd hlong (hshort root hroot)
  · have hfound : Scan.Admissible builtCrate ["a"] (.ofText "src") (.ofText "src/a.rs") := by
      refine .inr ⟨_, ["a.rs"], rfl, by decide, ⟨[], rfl⟩, ⟨by decide, by decide⟩, ?_⟩
      intro outer inner hsplit houter hinner
      obtain ⟨first, outer, rfl⟩ := List.exists_cons_of_ne_nil houter
      obtain ⟨last, inner, rfl⟩ := List.exists_cons_of_ne_nil hinner
      simp at hsplit
    exact ⟨files, hscan, hsorted, (hmem _).mpr ⟨"src", List.mem_cons_self, hfound⟩⟩

/-! ### A root that is too long -/

theorem isTooLong_replicate {entries : List (String × Entry)} (htop : tree.top = .folder entries) {n : Nat}
    (hlong : Path.nameLimit < n) (hlimit : n ≤ Path.limit) :
    tree.IsTooLong (.ofText (String.ofList (List.replicate n 'n'))) := by
  have hne : n ≠ 0 := by omega
  have hdot : List.replicate n 'n' ≠ ['.'] := by
    intro h
    have hmem : '.' ∈ List.replicate n 'n' := by rw [h]; exact List.mem_cons_self
    exact absurd (List.eq_of_mem_replicate hmem) (by decide)
  rw [Path.ofText_of_notMem (by simp [hne]) (by simp [hne]) hdot]
  have hfault : Path.fault? { names := [String.ofList (List.replicate n 'n')] } = none := by
    rw [Path.fault?, Path.text_of_name, Path.bytes?_replicate]
    simp [hlimit]
  have hbytes : Path.nameLimit < Path.byteCount (String.ofList (List.replicate n 'n')) := by
    rw [Path.byteCount, Path.bytes?_replicate]
    simpa
  exact .name hfault (List.nil_append _).symm rfl (congrArg some htop) hbytes

theorem long_root_refused :
    builtCrate.get? (.ofText (String.ofList (List.replicate 256 'n'))) = none ∧
    builtCrate.scan (["src", String.ofList (List.replicate 256 'n')].map .ofText) [] = .error .tooLong := by
  have hlong : builtCrate.IsTooLong (.ofText (String.ofList (List.replicate 256 'n'))) :=
    isTooLong_replicate rfl (by decide) (by decide)
  refine ⟨?_, scan_of_tooLong ⟨_, List.mem_cons_of_mem _ List.mem_cons_self, hlong⟩⟩
  rw [get?, lookup_eq_tooLong_iff.mpr hlong]
  rfl

end Tree

end Deadwood
