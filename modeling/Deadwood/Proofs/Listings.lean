/-
Listings as JSON texts.

A listing of dead items is written over several lines, or on one line if an item has a
text but no JSON form.  Both layouts are instances of one, `Layout.text`, and differ only in
the blanks between its parts.

* **`Json.chars_escape`** — between quotes every character is written so that it means
  itself;
* **`Layout.document_text`** — whatever the blanks are, the text is one of the grammar and
  means the object with the one member `dead`;
* **`exists_layout`** — a listing has one of the two layouts;
* **`json_listing_decodes`** — hence every listing decodes to the texts of its items.

A text keeps the mark U+D7FF together with a private character, so what is printed is not
the text itself but the characters it stands for; `kept` leads from these to the text.
-/
import Deadwood.Proofs.JsonReading
import Deadwood.Report.Listing

namespace Deadwood

namespace Json

/-! ### Characters between quotes -/

/-- A character below the blank is written with its number in four digits. -/
theorem unit16_hexPadded {n : Nat} (hn : n < 0x20) : Unit16 (Text.hexPadded 4 n).toList n := by
  have hdigits : ∀ m < 0x20,
      (Text.hexPadded 4 m).toList = ['0', '0', Nat.digitChar (m / 16), Nat.digitChar (m % 16)] ∧
      hexDigit? (Nat.digitChar (m / 16)) = some (m / 16) ∧ hexDigit? (Nat.digitChar (m % 16)) = some (m % 16) := by
    decide
  obtain ⟨hchars, hhigh, hlow⟩ := hdigits n hn
  have hzero : hexDigit? '0' = some 0 := rfl
  have hunit := Unit16.digits hzero hzero hhigh hlow
  have hsum : ((0 * 16 + 0) * 16 + n / 16) * 16 + n % 16 = n := by omega
  rwa [hsum, ← hchars] at hunit

/-- A character is written by a short escape, by its number, or as it is. -/
theorem escape_cases (c : Char) :
    (∃ e, (e, c) ∈ shortEscapes ∧ escape c = ['\\', e]) ∨
    (∃ ds, Unit16 ds c.toNat ∧ c.toNat < 0x20 ∧ escape c = '\\' :: 'u' :: ds) ∨
    (c ≠ '"' ∧ c ≠ '\\' ∧ 0x20 ≤ c.toNat ∧ escape c = [c]) := by
  by_cases hshort : c ∈ ['"', '\\', '\n', '\r', '\t', '\x08', '\x0c']
  · simp only [List.mem_cons, List.not_mem_nil, or_false] at hshort
    rcases hshort with rfl | rfl | rfl | rfl | rfl | rfl | rfl <;> refine .inl ⟨_, ?_, rfl⟩ <;> decide
  · simp only [List.mem_cons, List.not_mem_nil, or_false, not_or] at hshort
    by_cases hlow : c.toNat < 0x20
    · exact .inr (.inl ⟨_, unit16_hexPadded hlow, hlow, by simp [escape, hshort, hlow]⟩)
    · exact .inr (.inr ⟨hshort.1, hshort.2.1, by omega, by simp [escape, hshort, hlow]⟩)

theorem chars_escape (s : List Char) : Chars (s.flatMap escape) s := by
  induction s with
  | nil => exact .nil
  | cons c s ih =>
    rw [List.flatMap_cons]
    rcases escape_cases c with ⟨e, he, hescape⟩ | ⟨ds, hds, hlow, hescape⟩ | ⟨hquote, hslash, hcontrol, hescape⟩
    · rw [hescape]
      exact .short he ih
    · have hunit := Chars.unit hds (.inl (by omega)) ih
      rw [Char.ofNat_toNat] at hunit
      rw [hescape]
      exact hunit
    · rw [hescape]
      exact .plain hquote hslash hcontrol ih

theorem written_quoteChars (s : List Char) : Written (quoteChars s) (.text (Text.ofChars s)) :=
  .text (chars_escape s)

/-! ### What is kept of characters -/

theorem kept_append (s t : List Char) : kept (s ++ t) = kept s ++ kept t := by
  rw [kept, List.map_append, Text.charsOf, List.flatMap_append]
  rfl

theorem kept_intercalate (sep : List Char) (parts : List (List Char)) :
    kept (sep.intercalate parts) = (kept sep).intercalate (parts.map kept) := by
  induction parts with
  | nil => rfl
  | cons part parts ih =>
    cases parts with
    | nil => rw [List.intercalate_singleton, List.map_singleton, List.intercalate_singleton]
    | cons next parts =>
      rw [List.intercalate_cons_cons, kept_append, kept_append, ih]
      simp only [List.map_cons, List.intercalate_cons_cons]

theorem kept_cons {c : Char} (hc : c ≠ Text.mark) (s : List Char) : kept (c :: s) = c :: kept s := by
  show (Point.char c).chars ++ kept s = c :: kept s
  rw [Point.chars, if_neg hc, List.singleton_append]

theorem kept_of_notMem {s : List Char} (h : Text.mark ∉ s) : kept s = s := by
  induction s with
  | nil => rfl
  | cons c s ih =>
    rw [List.mem_cons, not_or] at h
    rw [kept_cons (Ne.symm h.1), ih h.2]

theorem kept_of_blanks {cs : List Char} (h : Blanks cs) : kept cs = cs :=
  kept_of_notMem fun hmark => absurd (h _ hmark) (by decide)

theorem Unit16.mark_notMem {ds : List Char} {n : Nat} (h : Unit16 ds n) : Text.mark ∉ ds := by
  have hdigit : ∀ {d : Char} {m : Nat}, hexDigit? d = some m → Text.mark ≠ d := by
    rintro d m hd rfl
    have hmark : hexDigit? Text.mark = none := by decide
    exact absurd (hmark.symm.trans hd) (by simp)
  obtain ⟨ha, hb, hc, hd⟩ := h
  simp [hdigit ha, hdigit hb, hdigit hc, hdigit hd]

theorem mark_notMem_escape {c : Char} (hc : c ≠ Text.mark) : Text.mark ∉ escape c := by
  rcases escape_cases c with ⟨e, he, hescape⟩ | ⟨ds, hds, -, hescape⟩ | ⟨-, -, -, hescape⟩
  · have hne : ∀ pair ∈ shortEscapes, Text.mark ∉ ['\\', pair.1] := by decide
    rw [hescape]
    exact hne _ he
  · have hletters : Text.mark ∉ ['\\', 'u'] := by decide
    rw [hescape]
    exact fun hmem => (List.mem_append.mp (hmem : _ ∈ ['\\', 'u'] ++ ds)).elim hletters hds.mark_notMem
  · rw [hescape, List.mem_singleton]
    exact Ne.symm hc

/-- Writing a text and keeping it may be exchanged. -/
theorem flatMap_escape_kept (s : List Char) : (kept s).flatMap escape = kept (s.flatMap escape) := by
  induction s with
  | nil => rfl
  | cons c s ih =>
    have hc : (Point.char c).chars.flatMap escape = kept (escape c) := by
      by_cases hmark : c = Text.mark
      · subst hmark
        decide
      · rw [kept_of_notMem (mark_notMem_escape hmark), Point.chars, if_neg hmark, List.flatMap_singleton]
    rw [List.flatMap_cons, kept_append, ← hc, ← ih, ← List.flatMap_append]
    rfl

theorem quoteChars_kept (s : List Char) : quoteChars (kept s) = kept (quoteChars s) := by
  have hquoted : ∀ t, quoteChars t = ['"'] ++ (t.flatMap escape ++ ['"']) := fun _ => rfl
  have hquote : kept ['"'] = ['"'] := by decide
  rw [hquoted, hquoted, kept_append, kept_append, hquote, flatMap_escape_kept]

theorem toList_quote (cs : List Char) : (quote (Text.ofChars cs)).toList = kept (quoteChars cs) := by
  rw [quote, Text.ofChars, Text.ofPoints, String.toList_ofList, String.toList_ofList, ← quoteChars_kept]
  rfl

/-! ### Lists over several lines -/

theorem writeItems_eq (depth : Nat) {items : List Json} (hitems : items ≠ []) :
    writeItems depth items =
      newLine depth ++ (',' :: newLine depth).intercalate (items.map fun item => item.write depth) := by
  induction items with
  | nil => exact absurd rfl hitems
  | cons item items ih =>
    cases items with
    | nil => rw [List.map_singleton, List.intercalate_singleton, writeItems]
    | cons second items =>
      rw [writeItems, ih (List.cons_ne_nil _ _)]
      · simp only [List.map_cons, List.intercalate_cons_cons, List.append_assoc, List.cons_append]
      · exact List.cons_ne_nil _ _

theorem write_list (depth : Nat) {items : List Json} (hitems : items ≠ []) :
    (Json.list items).write depth = '[' :: (newLine (depth + 1) ++
      ((',' :: newLine (depth + 1)).intercalate (items.map fun item => item.write (depth + 1)) ++ newLine depth) ++
        [']']) := by
  rw [write, writeItems_eq (depth + 1) hitems]
  simp [newLine]

end Json

/-! ### Layouts -/

open Json (kept quoteChars newLine Piece Member commaSeparated Written Document Blanks)

/-- The document that a listing of texts stands for. -/
def deadTexts (items : List (List Char)) : Json :=
  .object [("dead", .texts (items.map Text.ofChars))]

/-- The blanks of a listing. -/
structure Layout where
  /-- Before the name. -/
  indent : List Char
  /-- Before the first item. -/
  lead : List Char
  /-- Before each other item. -/
  next : List Char
  /-- After the last item. -/
  last : List Char
  /-- After the list. -/
  close : List Char

namespace Layout

/-- Over several lines. -/
def lines : Layout := ⟨newLine 1, newLine 2, newLine 2, newLine 1, newLine 0⟩

/-- On one line. -/
def line : Layout := ⟨[], [], [' '], [], []⟩

/-- Nothing but blanks stands between the parts. -/
structure Blank (layout : Layout) : Prop where
  indent : Blanks layout.indent
  lead : Blanks layout.lead
  next : Blanks layout.next
  last : Blanks layout.last
  close : Blanks layout.close

/-- The items of a list with what stands around them. -/
def pieces (next last : List Char) : List Char → List (List Char) → List Piece
  | _, [] => []
  | lead, [item] => [⟨lead, quoteChars item, .text (Text.ofChars item), last⟩]
  | lead, item :: rest => ⟨lead, quoteChars item, .text (Text.ofChars item), []⟩ :: pieces next last next rest

/-- The list of a listing. -/
def listText (layout : Layout) (items : List (List Char)) : List Char :=
  if items.isEmpty then ['[', ']']
  else '[' :: (commaSeparated ((pieces layout.next layout.last layout.lead items).map Piece.text) ++ [']'])

def member (layout : Layout) (items : List (List Char)) : Member where
  indent := layout.indent
  spelled := "dead".toList
  name := "dead".toList
  gap := []
  before := [' ']
  chars := layout.listText items
  value := .texts (items.map Text.ofChars)
  after := layout.close

/-- A listing. -/
def text (layout : Layout) (items : List (List Char)) : List Char :=
  '\x7b' :: ((layout.member items).text ++ ['\x7d'])

theorem pieces_ne_nil (next last lead item : List Char) (rest : List (List Char)) :
    pieces next last lead (item :: rest) ≠ [] := by
  cases rest with
  | nil => exact List.cons_ne_nil _ _
  | cons second rest => exact List.cons_ne_nil _ _

theorem written_pieces {next last : List Char} (hnext : Blanks next) (hlast : Blanks last) {lead : List Char}
    (hlead : Blanks lead) (items : List (List Char)) :
    ∀ piece ∈ pieces next last lead items, piece.Spaced ∧ Written piece.chars piece.value := by
  fun_induction pieces next last lead items with
  | case1 => simp
  | case2 lead item =>
    rintro piece hpiece
    rw [List.mem_singleton] at hpiece
    subst hpiece
    exact ⟨⟨hlead, hlast⟩, Json.written_quoteChars item⟩
  | case3 lead item rest _ ih =>
    rintro piece hpiece
    obtain rfl | hpiece := List.mem_cons.mp hpiece
    · exact ⟨⟨hlead, Json.blanks_nil⟩, Json.written_quoteChars item⟩
    · exact ih hnext piece hpiece

theorem value_pieces (next last lead : List Char) (items : List (List Char)) :
    (pieces next last lead items).map Piece.value = (items.map Text.ofChars).map Json.text := by
  fun_induction pieces next last lead items with
  | case1 => rfl
  | case2 => rfl
  | case3 lead item rest _ ih => rw [List.map_cons, ih, List.map_cons, List.map_cons]

/-- The items come with commas and the blanks of the layout between them. -/
theorem commaSeparated_pieces (next last lead : List Char) {items : List (List Char)} (hitems : items ≠ []) :
    commaSeparated ((pieces next last lead items).map Piece.text) =
      lead ++ ((',' :: next).intercalate (items.map quoteChars) ++ last) := by
  fun_induction pieces next last lead items with
  | case1 => exact absurd rfl hitems
  | case2 lead item => simp only [List.map_singleton, commaSeparated, List.intercalate_singleton, Piece.text]
  | case3 lead item rest hrest ih =>
    obtain ⟨second, rest, rfl⟩ := List.exists_cons_of_ne_nil hrest
    obtain ⟨piece, more, hpieces⟩ := List.exists_cons_of_ne_nil (pieces_ne_nil next last next second rest)
    have hmore := ih (List.cons_ne_nil _ _)
    rw [hpieces] at hmore ⊢
    rw [List.map_cons, List.map_cons, Json.commaSeparated_cons_cons, ← List.map_cons, hmore]
    simp only [List.map_cons, List.intercalate_cons_cons, Piece.text, List.append_assoc, List.cons_append,
      List.nil_append]

variable {layout : Layout}

theorem written_listText (hblank : layout.Blank) (items : List (List Char)) :
    Written (layout.listText items) (.texts (items.map Text.ofChars)) := by
  rw [listText]
  cases items with
  | nil =>
    have hempty : Written ('[' :: ([] ++ [']'])) (.list []) := .emptyList Json.blanks_nil
    exact hempty
  | cons item items =>
    have hpieces := written_pieces hblank.next hblank.last hblank.lead (item :: items)
    have hne := pieces_ne_nil layout.next layout.last layout.lead item items
    rw [Json.texts, ← value_pieces layout.next layout.last layout.lead]
    exact .list hne (fun piece hpiece => (hpieces piece hpiece).1) fun piece hpiece => (hpieces piece hpiece).2

/-- Whatever its blanks are, a listing is a text of the grammar and has its texts as the one member. -/
theorem document_text (hblank : layout.Blank) (items : List (List Char)) :
    Document (layout.text items) (deadTexts items) := by
  have hspace : Blanks [' '] := Json.blanks_replicate rfl 1
  have hobject : Written ('\x7b' :: (commaSeparated ([layout.member items].map Member.text) ++ ['\x7d']))
      (.object ([layout.member items].map Member.entry)) := by
    refine .object (List.cons_ne_nil _ _) ?_ ?_ (List.pairwise_singleton _ _) ?_ <;>
      refine List.forall_mem_singleton.mpr ?_
    · exact ⟨hblank.indent, Json.blanks_nil, hspace, hblank.close⟩
    · exact Json.chars_escape "dead".toList
    · exact written_listText hblank items
  refine ⟨[], layout.text items, [], (List.append_nil _).symm, Json.blanks_nil, Json.blanks_nil, ?_⟩
  rw [List.map_singleton, commaSeparated, List.intercalate_singleton] at hobject
  exact hobject

/-! ### What is kept of a layout -/

theorem kept_listText (hblank : layout.Blank) {items : List (List Char)} (hitems : items ≠ []) :
    kept (layout.listText items) = '[' :: (layout.lead ++
      ((',' :: layout.next).intercalate (items.map fun cs => kept (quoteChars cs)) ++ layout.last) ++ [']']) := by
  have hopen : '[' ≠ Text.mark := by decide
  have hcomma : ',' ≠ Text.mark := by decide
  have hclose : kept [']'] = [']'] := by decide
  rw [listText, if_neg (by simpa using hitems), commaSeparated_pieces _ _ _ hitems, Json.kept_cons hopen]
  simp only [Json.kept_append, Json.kept_intercalate, Json.kept_cons hcomma, hclose, List.map_map,
    Json.kept_of_blanks hblank.lead, Json.kept_of_blanks hblank.next, Json.kept_of_blanks hblank.last]
  rfl

theorem kept_text (hblank : layout.Blank) (items : List (List Char)) :
    kept (layout.text items) = '\x7b' :: (layout.indent ++ ("\"dead\": ".toList ++
      (kept (layout.listText items) ++ (layout.close ++ ['\x7d'])))) := by
  have htext : layout.text items = '\x7b' :: (layout.indent ++ ("\"dead\": ".toList ++
      (layout.listText items ++ (layout.close ++ ['\x7d'])))) := by
    simp [text, member, Member.text, Piece.text]
  have hopen : '\x7b' ≠ Text.mark := by decide
  have hname : kept "\"dead\": ".toList = "\"dead\": ".toList := by decide
  have hclose : kept ['\x7d'] = ['\x7d'] := by decide
  simp only [htext, Json.kept_cons hopen, Json.kept_append, hname, hclose, Json.kept_of_blanks hblank.indent,
    Json.kept_of_blanks hblank.close]

theorem blank_lines : lines.Blank :=
  ⟨Json.blanks_newLine 1, Json.blanks_newLine 2, Json.blanks_newLine 2, Json.blanks_newLine 1, Json.blanks_newLine 0⟩

theorem blank_line : line.Blank :=
  ⟨Json.blanks_nil, Json.blanks_nil, Json.blanks_replicate rfl 1, Json.blanks_nil, Json.blanks_nil⟩

/-- A document of strings is written over several lines. -/
theorem write_deadTexts (items : List (List Char)) : (deadTexts items).write 0 = kept (lines.text items) := by
  have hlist : (Json.texts (items.map Text.ofChars)).write 1 = kept (lines.listText items) := by
    cases items with
    | nil => decide
    | cons item items =>
      have hstring : ∀ cs, (Json.text (Text.ofChars cs)).write 2 = kept (quoteChars cs) := by
        intro cs
        rw [Json.write, ← Json.toList_quote, Json.quote, String.toList_ofList]
      rw [kept_listText blank_lines (List.cons_ne_nil item items), Json.texts, Json.write_list 1 (by simp),
        List.map_map, List.map_map]
      simp only [Function.comp_def, hstring]
      rfl
  rw [kept_text blank_lines, ← hlist, deadTexts, Json.write, Json.writeMembers]
  simp [newLine, lines]
  rfl

theorem toList_line {items : List (List Char)} (hitems : items ≠ []) :
    ("\x7b\"dead\": [" ++ ", ".intercalate (items.map fun cs => Json.quote (Text.ofChars cs)) ++ "]\x7d").toList =
      kept (line.text items) := by
  rw [kept_text blank_line, kept_listText blank_line hitems, String.toList_append, String.toList_append,
    String.toList_intercalate, List.map_map]
  simp [Function.comp_def, Json.toList_quote, line]

end Layout

/-! ### Listings -/

/-- An item by its characters: a string, or something that has a text but no JSON form. -/
inductive ListedItem where
  | string (chars : List Char)
  | other (chars : List Char)

namespace ListedItem

def chars : ListedItem → List Char
  | string chars => chars
  | other chars => chars

def isString : ListedItem → Bool
  | string _ => true
  | other _ => false

def item : ListedItem → ListingItem
  | string chars => .document (.text (Text.ofChars chars))
  | other chars => .textOnly (Text.ofChars chars)

theorem text_item (listed : ListedItem) : listed.item.text = Text.ofChars listed.chars := by
  cases listed <;> rfl

theorem mapM_json?_of_all {items : List ListedItem} (h : ∀ listed ∈ items, listed.isString = true) :
    (items.map item).mapM ListingItem.json? = some ((items.map chars).map fun cs => .text (Text.ofChars cs)) := by
  induction items with
  | nil => rfl
  | cons listed items ih =>
    obtain ⟨hlisted, hitems⟩ := List.forall_mem_cons.mp h
    cases listed with
    | string cs => simp [item, ListingItem.json?, chars, ih hitems]
    | other cs => exact absurd hlisted (by simp [isString])

theorem mapM_json?_of_exists {items : List ListedItem} (h : ∃ listed ∈ items, listed.isString = false) :
    (items.map item).mapM ListingItem.json? = none := by
  induction items with
  | nil => simp at h
  | cons listed items ih =>
    cases listed with
    | string cs =>
      have hitems : ∃ listed ∈ items, listed.isString = false := by simpa [isString] using h
      simp [item, ListingItem.json?, ih hitems]
    | other cs => simp [item, ListingItem.json?]

end ListedItem

theorem jsonListing_of_all {items : List ListedItem} (h : ∀ listed ∈ items, listed.isString = true) :
    jsonListing (items.map ListedItem.item) = Text.ofChars (Layout.lines.text (items.map ListedItem.chars)) := by
  have hwrite := Layout.write_deadTexts (items.map ListedItem.chars)
  rw [deadTexts, Json.texts, List.map_map] at hwrite
  rw [jsonListing, ListedItem.mapM_json?_of_all h]
  exact congrArg String.ofList hwrite

theorem jsonListing_of_exists {items : List ListedItem} (h : ∃ listed ∈ items, listed.isString = false) :
    jsonListing (items.map ListedItem.item) = Text.ofChars (Layout.line.text (items.map ListedItem.chars)) := by
  have hne : items.map ListedItem.chars ≠ [] := by
    obtain ⟨listed, hlisted, -⟩ := h
    exact fun hnil => List.ne_nil_of_mem hlisted (List.map_eq_nil_iff.mp hnil)
  have hquoted : (items.map ListedItem.item).map (fun item => Json.quote item.text) =
      (items.map ListedItem.chars).map fun cs => Json.quote (Text.ofChars cs) := by
    simp only [List.map_map, Function.comp_def, ListedItem.text_item]
  rw [jsonListing, ListedItem.mapM_json?_of_exists h, hquoted, ← String.toList_inj]
  exact (Layout.toList_line hne).trans String.toList_ofList.symm

theorem exists_layout (items : List ListedItem) : ∃ layout : Layout, layout.Blank ∧
    jsonListing (items.map ListedItem.item) = Text.ofChars (layout.text (items.map ListedItem.chars)) := by
  by_cases h : ∃ listed ∈ items, listed.isString = false
  · exact ⟨.line, Layout.blank_line, jsonListing_of_exists h⟩
  · exact ⟨.lines, Layout.blank_lines, jsonListing_of_all (by simpa using h)⟩

/-- **A JSON listing decodes to its items.**  Let every item of a listing be a string, or something that has a text but
no JSON form, each of any characters.  What is printed is a text of the JSON grammar, which means the object with the
texts of the items, in their order, as its one member `dead`, and means nothing else; and it is read as this. -/
theorem json_listing_decodes (items : List ListedItem) :
    ∃ out : List Char, jsonListing (items.map ListedItem.item) = Text.ofChars out ∧
      Json.parse? (String.ofList out) = some (deadTexts (items.map ListedItem.chars)) ∧
      ∀ json, Document out json ↔ json = deadTexts (items.map ListedItem.chars) := by
  obtain ⟨layout, hblank, hlisting⟩ := exists_layout items
  have hdocument := Layout.document_text hblank (items.map ListedItem.chars)
  refine ⟨_, hlisting, Json.parse?_of_document hdocument, fun json => ⟨fun h => h.unique hdocument, ?_⟩⟩
  rintro rfl
  exact hdocument

end Deadwood
