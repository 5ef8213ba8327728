/-
Reading graphs in the DOT language.

The reader follows the grammar: an identifier is a word or stands in quotes, an end of an
edge is a node with a field and a compass point after colons, and a statement is an end or
two ends with an arrow between them, and attributes.  It knows nothing of how statements
are written.

* **`readId?_identifier`** — a name in quotes is read back, if it is `Legible`;
* **`readEnd?_endpoint_iff`** — the end that is written for a name is read as the node of
  that name exactly if the name has no colon;
* **`readStatement?_node`**, **`readStatement?_edge_iff`** — the same for statements.

A name with a colon is cut there.  What is read as the node is the part before the colon,
and a name with a `#` in it, as functions have, is not read from a text without quotes.
-/
import Deadwood.Report.Dot
import Mathlib.Data.List.TakeDrop
import Mathlib.Data.List.TakeWhile
import Mathlib.Data.Nat.Init

namespace Deadwood.Dot

/-! ### Reading statements -/

def isBlank (c : Char) : Bool :=
  c == ' ' || c == '\t'

def isNumeral (c : Char) : Bool :=
  c.isDigit || c == '.'

/-- The text up to the closing quote, and what comes after it.  Only a quote and a line break are changed by a
backslash before them. -/
def readQuoted? : List Char → Option (List Char × List Char)
  | [] => none
  | '"' :: rest => some ([], rest)
  | '\\' :: '"' :: rest => (readQuoted? rest).map fun (text, rest) => ('"' :: text, rest)
  | '\\' :: '\\' :: rest => (readQuoted? rest).map fun (text, rest) => ('\\' :: '\\' :: text, rest)
  | '\\' :: '\n' :: rest => readQuoted? rest
  | c :: rest => (readQuoted? rest).map fun (text, rest) => (c :: text, rest)

/-- Letters of words; all that is not ASCII counts as one. -/
def isLetter (c : Char) : Bool :=
  isNameChar c || 128 ≤ c.toNat

/-- The longest start of a text that could be a number or a word, and what comes after it. -/
def bareWord : List Char → List Char × List Char
  | '-' :: rest => ('-' :: rest.takeWhile isNumeral, rest.dropWhile isNumeral)
  | cs =>
    let inWord := if cs.head?.any isNumeral then isNumeral else isLetter
    (cs.takeWhile inWord, cs.dropWhile inWord)

/-- The number or word at the beginning of a text, unless it is a word of the language. -/
def readWord? (cs : List Char) : Option (String × List Char) :=
  let (word, rest) := bareWord cs
  let isWord := !word.isEmpty && word.all isLetter && !word.head?.any Char.isDigit
  if (isNumber word || isWord) && !keywords.contains (String.ofList word).toLower then some (String.ofList word, rest)
  else none

/-- The identifier at the beginning of a text, and what comes after it.  HTML is not read. -/
def readId? (cs : List Char) : Option (String × List Char) :=
  match cs.dropWhile isBlank with
  | '"' :: rest => (readQuoted? rest).map fun (text, rest) => (String.ofList text, rest)
  | cs => readWord? cs

/-- An end of an edge, or the node of a node statement. -/
structure End where
  node : String
  field : Option String := none
  compass : Option String := none
  deriving DecidableEq, Repr

/-- An identifier after a colon, if there is a colon. -/
def readPart? : List Char → Option (Option String × List Char)
  | ':' :: rest => (readId? rest).map fun (part, rest) => (some part, rest)
  | rest => some (none, rest)

/-- The end at the beginning of a text, and what comes after it. -/
def readEnd? (cs : List Char) : Option (End × List Char) := do
  let (node, rest) ← readId? cs
  let (field, rest) ← readPart? rest
  let (compass, rest) ← readPart? rest
  return (⟨node, field, compass⟩, rest)

/-- A statement about a node or an edge as it is read, without its attributes. -/
inductive Reading where
  | node (name : End)
  | edge (tail head : End)
  deriving DecidableEq, Repr

/-- Reads a statement about a node or an edge. -/
def readStatement? (line : String) : Option Reading := do
  let (first, rest) ← readEnd? line.toList
  match rest.dropWhile isBlank with
  | '[' :: _ => return .node first
  | '-' :: '>' :: rest =>
    let (second, rest) ← readEnd? rest
    match rest.dropWhile isBlank with
    | '[' :: _ => return .edge first second
    | _ => none
  | _ => none

example : readStatement? "\t\"a#b\" -> \"c#d\":\"\":e [style=solid]\n" =
    some (.edge ⟨"a#b", none, none⟩ ⟨"c#d", some "", some "e"⟩) := by decide +kernel

/-! ### Names in quotes -/

/-- No line break, and no backslash before a quote, a colon or the end. -/
def legible : List Char → Bool
  | [] => true
  | '\\' :: rest => (rest.head?.any fun c => c != '"' && c != ':') && legible rest
  | c :: rest => c != '\n' && legible rest

/-- A name that is not HTML, and that quotes keep as it is. -/
structure Legible (name : String) : Prop where
  noHtml : name.toList.head? ≠ some '<'
  text : legible name.toList = true

theorem legible_cons {c : Char} (hc : c ≠ '\\') (rest : List Char) :
    legible (c :: rest) = (c != '\n' && legible rest) := by
  rw [legible]
  exact hc

/-- Legible backslashes stand before something that they do not change. -/
theorem legible_run {run : Nat} {cs : List Char} (h : legible (List.replicate run '\\' ++ cs) = true) :
    legible cs = true ∧ (run ≠ 0 → ∃ c rest, cs = c :: rest ∧ c ≠ '"' ∧ c ≠ ':') := by
  induction run with
  | zero => exact ⟨h, fun hrun => absurd rfl hrun⟩
  | succ run ih =>
    rw [List.replicate_succ, List.cons_append, legible, Bool.and_eq_true] at h
    obtain ⟨hhead, hrest⟩ := h
    obtain ⟨hcs, hnext⟩ := ih hrest
    refine ⟨hcs, fun _ => ?_⟩
    by_cases hrun : run = 0
    · subst hrun
      cases cs with
      | nil => exact absurd hhead (by simp)
      | cons c rest =>
        have hc : c ≠ '"' ∧ c ≠ ':' := by simpa using hhead
        exact ⟨c, rest, rfl, hc⟩
    · exact hnext hrun

/-- Backslashes before another character are read as they are. -/
theorem readQuoted?_run {c : Char} (hquote : c ≠ '"') (hslash : c ≠ '\\') (cs : List Char) (run : Nat)
    (hbreak : run ≠ 0 → c ≠ '\n') :
    readQuoted? (List.replicate run '\\' ++ c :: cs) =
      (readQuoted? cs).map fun (text, rest) => (List.replicate run '\\' ++ c :: text, rest) := by
  have hchar : readQuoted? (c :: cs) = (readQuoted? cs).map fun (text, rest) => (c :: text, rest) := by
    rw [readQuoted?]
    all_goals simp [hquote, hslash]
  induction run using Nat.twoStepInduction with
  | zero => exact hchar
  | one =>
    have hbreak := hbreak Nat.one_ne_zero
    have hone : readQuoted? ('\\' :: c :: cs) =
        (readQuoted? (c :: cs)).map fun (text, rest) => ('\\' :: text, rest) := by
      rw [readQuoted?]
      all_goals simp [hquote, hslash, hbreak]
    rw [List.replicate_one, List.singleton_append, hone, hchar, Option.map_map]
    rfl
  | more run ih _ =>
    have hbreak : c ≠ '\n' := hbreak (by omega)
    rw [List.replicate_succ, List.replicate_succ, List.cons_append, List.cons_append, readQuoted?, ih fun _ => hbreak,
      Option.map_map]
    rfl

/-- The text in quotes of a legible name is the name. -/
theorem readQuoted?_escapeQuotes (run : Nat) (cs rest : List Char)
    (h : legible (List.replicate run '\\' ++ cs) = true) :
    readQuoted? (escapeQuotes run cs ++ '"' :: rest) = some (List.replicate run '\\' ++ cs, rest) := by
  fun_induction escapeQuotes run cs with
  | case1 run =>
    obtain ⟨-, hnext⟩ := legible_run h
    obtain rfl : run = 0 := by
      by_contra hrun
      obtain ⟨c, rest, hnil, -⟩ := hnext hrun
      exact absurd hnil (by simp)
    rfl
  | case2 run cs ih =>
    have hrun : List.replicate run '\\' ++ '\\' :: cs = List.replicate (run + 1) '\\' ++ cs := by
      rw [List.replicate_succ', List.append_assoc, List.singleton_append]
    rw [hrun] at h ⊢
    exact ih h
  | case3 run cs ih =>
    obtain ⟨hcs, hnext⟩ := legible_run h
    -- Before a quote there is no backslash, so the one that is put there is the only one.
    obtain rfl : run = 0 := by
      by_contra hrun
      obtain ⟨c, rest, hcons, hc, -⟩ := hnext hrun
      exact hc (List.cons.inj hcons).1.symm
    have hrest : legible cs = true := by
      rw [legible_cons (by decide), Bool.and_eq_true] at hcs
      exact hcs.2
    rw [List.replicate_zero, List.nil_append] at ih ⊢
    show readQuoted? ('\\' :: '"' :: (escapeQuotes 0 cs ++ '"' :: rest)) = _
    rw [readQuoted?, ih hrest]
    rfl
  | case4 run c cs hslash hquote ih =>
    obtain ⟨hcs, -⟩ := legible_run h
    rw [legible_cons hslash, Bool.and_eq_true, bne_iff_ne] at hcs
    rw [List.append_assoc, List.cons_append, readQuoted?_run hquote hslash _ _ fun _ => hcs.1, ih hcs.2]
    rfl

/-! ### Names without quotes -/

/-- A character of a name or a number. -/
def isWordChar (c : Char) : Bool :=
  isNameChar c || c == '.' || c == '-'

theorem isWordChar_of_isUnsigned {cs : List Char} (h : isUnsigned cs = true) : ∀ c ∈ cs, isWordChar c = true := by
  have hdigit : ∀ c : Char, c.isDigit = true → isWordChar c = true := by
    intro c hc
    simp [isWordChar, isNameChar, Char.isAlphanum, hc]
  have hfront : ∀ c ∈ cs.takeWhile Char.isDigit, isWordChar c = true :=
    fun c hc => hdigit c (List.mem_takeWhile_imp hc)
  intro c hc
  rw [← List.takeWhile_append_dropWhile (p := Char.isDigit) (l := cs), List.mem_append] at hc
  rcases hc with hc | hc
  · exact hfront c hc
  · rw [isUnsigned, List.span_eq_takeWhile_dropWhile] at h
    have hdot : ∃ fraction, cs.dropWhile Char.isDigit = '.' :: fraction ∧ fraction.all Char.isDigit = true := by
      split at h
      · rename_i hpair
        rw [Bool.and_eq_true] at h
        exact ⟨_, (Prod.mk.inj hpair).2, h.2⟩
      · rename_i hpair
        rw [(Prod.mk.inj hpair).2] at hc
        exact absurd hc List.not_mem_nil
      · rename_i hpair
        exact ⟨_, (Prod.mk.inj hpair).2, h⟩
      · exact absurd h (by simp)
    obtain ⟨fraction, heq, hall⟩ := hdot
    rw [heq, List.mem_cons] at hc
    rcases hc with rfl | hc
    · decide
    · exact hdigit c (List.all_eq_true.mp hall c hc)

/-- A text that is written without quotes has only such characters, and a line break at its end at most. -/
theorem isWordChar_of_isPlain {name : String} (h : isPlain name = true) {c : Char} (hc : c ∈ name.toList) :
    c = '\n' ∨ isWordChar c = true := by
  have hbreak : c = '\n' ∨ c ∈ dropFinalBreak name.toList := by
    rw [dropFinalBreak]
    split
    · rename_i hlast
      obtain ⟨front, hfront⟩ := List.getLast?_eq_some_iff.mp (beq_iff_eq.mp hlast)
      rw [hfront] at hc ⊢
      rcases List.mem_append.mp hc with hc | hc
      · right
        rwa [List.dropLast_concat]
      · exact Or.inl (List.mem_singleton.mp hc)
    · exact Or.inr hc
  refine hbreak.imp_right fun hc => ?_
  rw [isPlain, Bool.and_eq_true, Bool.or_eq_true] at h
  rcases h.1 with hname | hnumber
  · have hall : ∀ cs, isName cs = true → ∀ c ∈ cs, isNameChar c = true := by
      intro cs hname c hc
      cases cs with
      | nil => exact absurd hc List.not_mem_nil
      | cons first rest =>
        simp only [isName, Bool.and_eq_true, List.all_eq_true] at hname
        rcases List.mem_cons.mp hc with rfl | hc
        · exact hname.1.1
        · exact hname.2 c hc
    simp [isWordChar, hall _ hname c hc]
  · rw [isNumber.eq_def] at hnumber
    split at hnumber
    · rename_i cs heq
      rw [heq] at hc
      rcases List.mem_cons.mp hc with rfl | hc
      · decide
      · exact isWordChar_of_isUnsigned hnumber c hc
    · exact isWordChar_of_isUnsigned hnumber c hc

/-! ### Ends of edges -/

section

variable {name : String}

/-- A name that needs quotes is read back. -/
theorem readId?_identifier (h : Legible name) (hplain : isPlain name = false) (rest : List Char) :
    readId? ((identifier name).toList ++ rest) = some (name, rest) := by
  have hhtml : isHtml name = false := by
    simp [isHtml, h.noHtml]
  have htext : (identifier name).toList ++ rest = '"' :: (escapeQuotes 0 name.toList ++ '"' :: rest) := by
    simp [identifier, hhtml, hplain]
  have hread := readQuoted?_escapeQuotes 0 name.toList rest h.text
  rw [htext, readId?, List.dropWhile_cons_of_neg (by decide)]
  show (readQuoted? _).map _ = _
  rw [hread]
  simp

/-- What is read without quotes has no `#` in it. -/
theorem hash_notMem_readWord? {cs rest : List Char} (h : readWord? cs = some (name, rest)) : '#' ∉ name.toList := by
  have hnumeral : ∀ cs : List Char, '#' ∉ cs.takeWhile isNumeral :=
    fun cs hmem => absurd (List.mem_takeWhile_imp hmem) (by decide)
  have hword : '#' ∉ (bareWord cs).1 := by
    rw [bareWord.eq_def]
    split
    · simp [hnumeral]
    · dsimp only
      split
      · exact hnumeral _
      · exact fun hmem => absurd (List.mem_takeWhile_imp hmem) (by decide)
  rw [readWord?] at h
  dsimp only at h
  split at h
  · obtain ⟨rfl, -⟩ := Prod.mk.inj (Option.some.inj h)
    rwa [String.toList_ofList]
  · exact absurd h (by simp)

theorem readId?_blank {c : Char} (h : isBlank c = true) (cs : List Char) : readId? (c :: cs) = readId? cs := by
  rw [readId?, List.dropWhile_cons_of_pos h, ← readId?]

theorem readId?_word {c : Char} (hblank : isBlank c = false) (hquote : c ≠ '"') (cs : List Char) :
    readId? (c :: cs) = readWord? (c :: cs) := by
  rw [readId?, List.dropWhile_cons_of_neg (by simp [hblank])]
  split
  · rename_i heq
    exact absurd (List.cons.inj heq).1 hquote
  · rfl

/-- A text is cut at its first colon. -/
theorem exists_endpoint_eq (name : String) :
    ∃ more, endpoint name = identifier (String.ofList (name.toList.takeWhile (· != ':'))) ++ more := by
  rw [endpoint]
  dsimp only [cutColon]
  split
  · exact ⟨"", by simp⟩
  · split
    · exact ⟨_, String.append_assoc ..⟩
    · exact ⟨_, by simp only [String.append_assoc]; rfl⟩

theorem endpoint_of_colonFree (h : ':' ∉ name.toList) : endpoint name = identifier name := by
  have hstays : ∀ c ∈ name.toList, (c != ':') = true := by
    intro c hc
    exact bne_iff_ne.mpr fun heq => h (heq ▸ hc)
  have hcut : cutColon name.toList = (name.toList, []) := by
    rw [cutColon, List.takeWhile_eq_self_iff.mpr hstays, List.dropWhile_eq_nil_iff.mpr hstays, List.drop_nil]
  rw [endpoint, hcut]
  simp

theorem newline_notMem_of_legible {cs : List Char} (h : legible cs = true) : '\n' ∉ cs := by
  fun_induction legible cs with
  | case1 => exact List.not_mem_nil
  | case2 rest ih =>
    rw [Bool.and_eq_true] at h
    exact fun hmem => ih h.2 ((List.mem_cons.mp hmem).resolve_left (by decide))
  | case3 c rest _ ih =>
    rw [Bool.and_eq_true, bne_iff_ne] at h
    exact fun hmem => ih h.2 ((List.mem_cons.mp hmem).resolve_left (Ne.symm h.1))

/-- The part before the first colon is legible, since no backslash stands before the colon. -/
theorem legible_takeWhile {cs : List Char} (h : legible cs = true) : legible (cs.takeWhile (· != ':')) = true := by
  fun_induction legible cs with
  | case1 => rfl
  | case2 rest ih =>
    rw [Bool.and_eq_true] at h
    rw [List.takeWhile_cons_of_pos (by decide), legible, Bool.and_eq_true, List.head?_takeWhile]
    refine ⟨?_, ih h.2⟩
    obtain ⟨c, hc, hnext⟩ := (Option.any_eq_true _ _).mp h.1
    have hcolon : (c != ':') = true := (Bool.and_eq_true _ _ ▸ hnext).2
    rw [hc, Option.filter, if_pos hcolon, Option.any_some, hnext]
  | case3 c rest hslash ih =>
    rw [Bool.and_eq_true] at h
    by_cases hcolon : c = ':'
    · subst hcolon
      rfl
    · rw [List.takeWhile_cons_of_pos (by simpa using hcolon), legible_cons hslash, h.1, ih h.2]
      rfl

theorem Legible.beforeColon (h : Legible name) : Legible (String.ofList (name.toList.takeWhile (· != ':'))) where
  noHtml := by
    rw [String.toList_ofList, List.head?_takeWhile]
    intro hhead
    exact h.noHtml (Option.filter_eq_some_iff.mp hhead).1
  text := by
    rw [String.toList_ofList]
    exact legible_takeWhile h.text

/-- If a name has a colon, what is read first at its end is not the name. -/
theorem readId?_endpoint_ne (h : Legible name) (hhash : '#' ∈ name.toList) (hcolon : ':' ∈ name.toList)
    {rest after : List Char} {node : String} (hread : readId? ((endpoint name).toList ++ rest) = some (node, after)) :
    node ≠ name := by
  obtain ⟨more, hend⟩ := exists_endpoint_eq name
  have hcut := h.beforeColon
  have hshort : ':' ∉ (String.ofList (name.toList.takeWhile (· != ':'))).toList := by
    rw [String.toList_ofList]
    exact fun hmem => absurd (List.mem_takeWhile_imp hmem) (by decide)
  generalize String.ofList (name.toList.takeWhile (· != ':')) = cut at hend hcut hshort
  rw [hend, String.toList_append, List.append_assoc] at hread
  by_cases hplain : isPlain cut = true
  · -- Without quotes there is no `#` in what is read.
    have hidentifier : identifier cut = cut := by simp [identifier, hplain]
    obtain ⟨c, cs, hcs⟩ : ∃ c cs, cut.toList = c :: cs := by
      refine List.exists_cons_of_ne_nil fun hnil => ?_
      rw [String.toList_eq_nil_iff.mp hnil] at hplain
      exact absurd hplain (by decide)
    have hmem : c ∈ cut.toList := hcs ▸ List.mem_cons_self
    have hword : isWordChar c = true :=
      (isWordChar_of_isPlain hplain hmem).resolve_left fun heq => newline_notMem_of_legible hcut.text (heq ▸ hmem)
    have hquote : c ≠ '"' := by
      rintro rfl
      exact absurd hword (by decide)
    have hblank : isBlank c = false := by
      rw [isBlank, Bool.or_eq_false_iff, beq_eq_false_iff_ne, beq_eq_false_iff_ne]
      constructor <;> rintro rfl <;> exact absurd hword (by decide)
    rw [hidentifier, hcs, List.cons_append, readId?_word hblank hquote] at hread
    rintro rfl
    exact hash_notMem_readWord? hread hhash
  · rw [readId?_identifier hcut (Bool.eq_false_iff.mpr hplain)] at hread
    obtain ⟨rfl, -⟩ := Prod.mk.inj (Option.some.inj hread)
    rintro rfl
    exact hshort hcolon

theorem readEnd?_blank {c : Char} (h : isBlank c = true) (cs : List Char) : readEnd? (c :: cs) = readEnd? cs := by
  rw [readEnd?, readId?_blank h, ← readEnd?]

theorem readEnd?_of_readId? {cs rest : List Char} {node : String} (h : readId? cs = some (node, rest))
    (hrest : rest.head? ≠ some ':') : readEnd? cs = some (⟨node, none, none⟩, rest) := by
  have hpart : readPart? rest = some (none, rest) := by
    rw [readPart?.eq_def]
    split
    · exact absurd rfl hrest
    · rfl
  rw [readEnd?, h, Option.bind_eq_bind, Option.bind_some]
  dsimp only
  rw [hpart, Option.bind_eq_bind, Option.bind_some]
  dsimp only
  rw [hpart]
  rfl

theorem exists_readId?_of_readEnd? {cs rest : List Char} {read : End} (h : readEnd? cs = some (read, rest)) :
    ∃ after, readId? cs = some (read.node, after) := by
  obtain ⟨⟨node, after⟩, hid, h⟩ := Option.bind_eq_some_iff.mp h
  obtain ⟨⟨field, after'⟩, -, h⟩ := Option.bind_eq_some_iff.mp h
  obtain ⟨⟨compass, after''⟩, -, h⟩ := Option.bind_eq_some_iff.mp h
  obtain ⟨rfl, -⟩ := Prod.mk.inj (Option.some.inj h)
  exact ⟨after, hid⟩

theorem isPlain_of_hash (hhash : '#' ∈ name.toList) : isPlain name = false := by
  refine Bool.eq_false_iff.mpr fun hplain => ?_
  rcases isWordChar_of_isPlain hplain hhash with h | h
  · exact absurd h (by decide)
  · exact absurd h (by decide)

theorem readEnd?_endpoint (h : Legible name) (hhash : '#' ∈ name.toList) (hcolon : ':' ∉ name.toList)
    (rest : List Char) :
    readEnd? ((endpoint name).toList ++ ' ' :: rest) = some (⟨name, none, none⟩, ' ' :: rest) := by
  rw [endpoint_of_colonFree hcolon]
  exact readEnd?_of_readId? (readId?_identifier h (isPlain_of_hash hhash) _) (by simp)

/-- The end that is written for a name is read as the node of that name exactly if the name has no colon. -/
theorem readEnd?_endpoint_iff (h : Legible name) (hhash : '#' ∈ name.toList) (rest : List Char) :
    (∃ read after, readEnd? ((endpoint name).toList ++ ' ' :: rest) = some (read, after) ∧ read.node = name) ↔
      ':' ∉ name.toList := by
  constructor
  · rintro ⟨read, after, hread, hnode⟩ hcolon
    obtain ⟨after', hid⟩ := exists_readId?_of_readEnd? hread
    exact readId?_endpoint_ne h hhash hcolon hid hnode
  · intro hcolon
    exact ⟨_, _, readEnd?_endpoint h hhash hcolon rest, rfl⟩

end

/-! ### Statements -/

theorem hash_mem_nodeName (key : Key) : '#' ∈ (nodeName key).toList := by
  simp [nodeName, toString, String.toList_append]

section

variable {name source target : String} {pairs : List (String × String)}

theorem exists_toList_attributes (pairs : List (String × String)) :
    ∃ more, (Dot.attributes pairs).toList = '[' :: more := by
  rw [Dot.attributes, String.append_assoc, String.toList_append]
  exact ⟨_, rfl⟩

theorem exists_toList_node (name : String) (pairs : List (String × String)) :
    ∃ more, (Statement.node name pairs).line.toList = '\t' :: ((identifier name).toList ++ ' ' :: '[' :: more) := by
  obtain ⟨more, hmore⟩ := exists_toList_attributes pairs
  refine ⟨more ++ ['\n'], ?_⟩
  simp [Statement.line, toString, String.toList_append, hmore]

theorem exists_toList_edge (source target : String) (pairs : List (String × String)) :
    ∃ more, (Statement.edge source target pairs).line.toList =
      '\t' :: ((endpoint source).toList ++
        ' ' :: '-' :: '>' :: ' ' :: ((endpoint target).toList ++ ' ' :: '[' :: more)) := by
  obtain ⟨more, hmore⟩ := exists_toList_attributes pairs
  refine ⟨more ++ ['\n'], ?_⟩
  simp [Statement.line, toString, String.toList_append, hmore]

/-- A node statement is read as one about the node of its name. -/
theorem readStatement?_node (h : Legible name) (hhash : '#' ∈ name.toList) :
    readStatement? (Statement.node name pairs).line = some (.node ⟨name, none, none⟩) := by
  obtain ⟨more, hline⟩ := exists_toList_node name pairs
  have hend : readEnd? (Statement.node name pairs).line.toList = some (⟨name, none, none⟩, ' ' :: '[' :: more) := by
    rw [hline, readEnd?_blank (by decide)]
    exact readEnd?_of_readId? (readId?_identifier h (isPlain_of_hash hhash) _) (by simp)
  rw [readStatement?, hend]
  rfl

/-- An edge statement is read as one about two ends. -/
theorem ends_of_readStatement? {line : String} {tail head : End} (h : readStatement? line = some (.edge tail head)) :
    ∃ rest more after, readEnd? line.toList = some (tail, rest) ∧ rest.dropWhile isBlank = '-' :: '>' :: more ∧
      readEnd? more = some (head, after) := by
  obtain ⟨⟨first, rest⟩, hfirst, h⟩ := Option.bind_eq_some_iff.mp h
  dsimp only at h
  split at h
  · exact absurd (Option.some.inj h) (by simp)
  · rename_i more hmore
    obtain ⟨⟨second, after⟩, hsecond, h⟩ := Option.bind_eq_some_iff.mp h
    dsimp only at h
    split at h
    · obtain ⟨rfl, rfl⟩ := Reading.edge.inj (Option.some.inj h)
      exact ⟨rest, more, after, hfirst, hmore, hsecond⟩
    · exact absurd h (by simp)
  · exact absurd h (by simp)

/-- An edge statement is read as an edge between the nodes of two names exactly if these have no colon. -/
theorem readStatement?_edge_iff (hsource : Legible source) (hsourceHash : '#' ∈ source.toList)
    (htarget : Legible target) (htargetHash : '#' ∈ target.toList) :
    (∃ tail head, readStatement? (Statement.edge source target pairs).line = some (.edge tail head) ∧
        tail.node = source ∧ head.node = target) ↔
      ':' ∉ source.toList ∧ ':' ∉ target.toList := by
  obtain ⟨more, hline⟩ := exists_toList_edge source target pairs
  constructor
  · rintro ⟨tail, head, hread, htail, hhead⟩
    obtain ⟨rest, rest', after, hfirst, harrow, hsecond⟩ := ends_of_readStatement? hread
    rw [hline, readEnd?_blank (by decide)] at hfirst
    have hsourceColon := (readEnd?_endpoint_iff hsource hsourceHash _).mp ⟨tail, rest, hfirst, htail⟩
    -- The tail is read as it was written, so the head is read from where it was written.
    rw [readEnd?_endpoint hsource hsourceHash hsourceColon] at hfirst
    obtain ⟨-, rfl⟩ := Prod.mk.inj (Option.some.inj hfirst)
    obtain rfl : ' ' :: ((endpoint target).toList ++ ' ' :: '[' :: more) = rest' := by
      simpa [List.dropWhile, isBlank] using harrow
    rw [readEnd?_blank (by decide)] at hsecond
    exact ⟨hsourceColon, (readEnd?_endpoint_iff htarget htargetHash _).mp ⟨head, after, hsecond, hhead⟩⟩
  · rintro ⟨hsourceColon, htargetColon⟩
    refine ⟨⟨source, none, none⟩, ⟨target, none, none⟩, ?_, rfl, rfl⟩
    have hfirst := readEnd?_endpoint hsource hsourceHash hsourceColon
      ('-' :: '>' :: ' ' :: ((endpoint target).toList ++ ' ' :: '[' :: more))
    have hsecond := readEnd?_endpoint htarget htargetHash htargetColon ('[' :: more)
    rw [readStatement?, hline, readEnd?_blank (by decide), hfirst]
    have harrow : (' ' :: '-' :: '>' :: ' ' :: ((endpoint target).toList ++ ' ' :: '[' :: more)).dropWhile isBlank =
        '-' :: '>' :: ' ' :: ((endpoint target).toList ++ ' ' :: '[' :: more) := rfl
    simp only [Option.bind_some, Option.bind_eq_bind, harrow]
    rw [readEnd?_blank (by decide), hsecond]
    rfl

end

end Deadwood.Dot
