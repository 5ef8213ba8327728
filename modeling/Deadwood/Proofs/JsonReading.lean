/-
Reading JSON.

The reader of documents is given a number of steps, and it decides by the next character
what to read.  Here it is compared with the grammar, production by production; each lemma
leaves room for what follows in the text.

* **`textTail?_of_chars`** — a text is read up to its closing quote;
* **`number?_of_number`** — a number is read up to what is apart from it;
* **`Written.reads`** — a value is read from the front of what begins with it, in at most
  as many steps as it has characters;
* **`parse?_of_document`** — hence every text of the grammar is read, with its meaning;
* **`Document.unique`** — in particular no text of the grammar means two things.
-/
import Deadwood.Proofs.JsonGrammar
import Mathlib.Data.List.DropRight

namespace Deadwood.Json

/-! ### Texts -/

/-- Characters as a text keeps them. -/
def kept (s : List Char) : List Char :=
  Text.charsOf (s.map .char)

theorem unit?_of_unit16 {ds : List Char} {n : Nat} (h : Unit16 ds n) (rest : List Char) :
    unit? (ds ++ rest) = some (n, rest) := by
  obtain ⟨ha, hb, hc, hd⟩ := h
  rename_i w x y z
  have hsum : (w * 16 + x) * 256 + y * 16 + z = ((w * 16 + x) * 16 + y) * 16 + z := by omega
  rw [← hsum]
  simp [unit?, ha, hb, hc, hd]

/-- Reading goes on after a code point. -/
def afterPoint (point : Point) (read : List Char × List Char) : List Char × List Char :=
  (point.chars ++ read.1, read.2)

theorem textTail?_plain {c : Char} (hquote : c ≠ '"') (hslash : c ≠ '\\') (hcontrol : 0x20 ≤ c.toNat) (fuel : Nat)
    (rest : List Char) : textTail? (fuel + 1) (c :: rest) = (textTail? fuel rest).map (afterPoint (.char c)) := by
  rw [textTail?.eq_5 _ _ _ hquote hslash, if_neg (by omega), Option.map_eq_bind]
  rfl

theorem textTail?_escape {cs rest : List Char} {point : Point} (h : escaped? cs = some (point, rest)) (fuel : Nat) :
    textTail? (fuel + 1) ('\\' :: cs) = (textTail? fuel rest).map (afterPoint point) := by
  rw [textTail?, h, Option.map_eq_bind]
  rfl

theorem escaped?_short {e c : Char} (h : (e, c) ∈ shortEscapes) (rest : List Char) :
    escaped? (e :: rest) = some (.char c, rest) := by
  simp only [shortEscapes, List.mem_cons, Prod.mk.injEq, List.not_mem_nil, or_false] at h
  rcases h with ⟨rfl, rfl⟩ | ⟨rfl, rfl⟩ | ⟨rfl, rfl⟩ | ⟨rfl, rfl⟩ | ⟨rfl, rfl⟩ | ⟨rfl, rfl⟩ | ⟨rfl, rfl⟩ | ⟨rfl, rfl⟩ <;>
    rfl

theorem escaped?_unit {ds : List Char} {n : Nat} (hunit : Unit16 ds n) (hwhole : n < 0xD800 ∨ 0xE000 ≤ n)
    (rest : List Char) : escaped? ('u' :: (ds ++ rest)) = some (.char (Char.ofNat n), rest) := by
  have hcode : Point.ofCode n = .char (Char.ofNat n) := dif_neg (by omega)
  rw [escaped?, unicodeEscape?, unit?_of_unit16 hunit]
  simp [hcode]
  omega

theorem escaped?_pair {ds es : List Char} {high low : Nat} (hhigh : Unit16 ds high) (hlow : Unit16 es low)
    (hfirst : 0xD800 ≤ high ∧ high < 0xDC00) (hsecond : 0xDC00 ≤ low ∧ low < 0xE000) (rest : List Char) :
    escaped? ('u' :: (ds ++ '\\' :: 'u' :: (es ++ rest))) =
      some (.char (Char.ofNat (0x10000 + (high - 0xD800) * 0x400 + (low - 0xDC00))), rest) := by
  rw [escaped?, unicodeEscape?, unit?_of_unit16 hhigh]
  simp [unit?_of_unit16 hlow, hfirst, hsecond]

/-- A text of the grammar is read up to its closing quote. -/
theorem textTail?_of_chars {cs s : List Char} (h : Chars cs s) (rest : List Char) {fuel : Nat}
    (hfuel : cs.length < fuel) : textTail? fuel (cs ++ '"' :: rest) = some (kept s, rest) := by
  induction h generalizing fuel with
  | nil =>
    obtain ⟨fuel, rfl⟩ : ∃ n, fuel = n + 1 := ⟨fuel - 1, by omega⟩
    rfl
  | plain hquote hslash hcontrol _ ih =>
    obtain ⟨fuel, rfl⟩ : ∃ n, fuel = n + 1 := ⟨fuel - 1, by omega⟩
    rw [List.cons_append, textTail?_plain hquote hslash hcontrol, ih (by simpa using hfuel)]
    rfl
  | short hescape _ ih =>
    obtain ⟨fuel, rfl⟩ : ∃ n, fuel = n + 1 := ⟨fuel - 1, by omega⟩
    rw [List.length_cons, List.length_cons] at hfuel
    rw [List.cons_append, List.cons_append, textTail?_escape (escaped?_short hescape _), ih (by omega)]
    rfl
  | unit hunit hwhole _ ih =>
    obtain ⟨fuel, rfl⟩ : ∃ n, fuel = n + 1 := ⟨fuel - 1, by omega⟩
    simp only [List.length_cons, List.length_append] at hfuel
    rw [List.cons_append, List.cons_append, List.append_assoc, textTail?_escape (escaped?_unit hunit hwhole _),
      ih (by omega)]
    rfl
  | pair hhigh hlow hfirst hsecond _ ih =>
    obtain ⟨fuel, rfl⟩ : ∃ n, fuel = n + 1 := ⟨fuel - 1, by omega⟩
    simp only [List.length_cons, List.length_append] at hfuel
    simp only [List.cons_append, List.append_assoc]
    rw [textTail?_escape (escaped?_pair hhigh hlow hfirst hsecond _), ih (by omega)]
    rfl

/-! ### Numbers -/

/-- What follows does not belong to a number before it. -/
def Apart (rest : List Char) : Prop :=
  ∀ c, rest.head? = some c → isDigit c = false ∧ c ≠ '.' ∧ c ≠ 'e' ∧ c ≠ 'E'

theorem takeWhile_digits {ds rest : List Char} (hdigits : Digits ds)
    (hrest : ∀ c, rest.head? = some c → isDigit c = false) : (ds ++ rest).takeWhile isDigit = ds := by
  rw [List.takeWhile_append_of_pos hdigits.2]
  cases rest with
  | nil => simp
  | cons c rest => rw [List.takeWhile_cons_of_neg (by simp [hrest c rfl]), List.append_nil]

theorem dropWhile_digits {ds rest : List Char} (hdigits : Digits ds)
    (hrest : ∀ c, rest.head? = some c → isDigit c = false) : (ds ++ rest).dropWhile isDigit = rest := by
  rw [List.dropWhile_append_of_pos hdigits.2]
  cases rest with
  | nil => rfl
  | cons c rest => rw [List.dropWhile_cons_of_neg (by simp [hrest c rfl])]

theorem isEmpty_digits {ds : List Char} (hdigits : Digits ds) : ds.isEmpty = false :=
  List.isEmpty_eq_false_iff.mpr hdigits.1

theorem exponent?_of_exponent {es rest : List Char} {exponent : Option Int} (h : Exponent es exponent)
    (hrest : Apart rest) : exponent? (es ++ rest) = some (exponent, rest) := by
  have hdigit := fun c hc => (hrest c hc).1
  cases h with
  | absent =>
    cases rest with
    | nil => rfl
    | cons c rest =>
      obtain ⟨-, -, he, hE⟩ := hrest c rfl
      simp [exponent?, he, hE]
  | @unsigned e ds hletter hdigits =>
    obtain ⟨d, ds, rfl⟩ := List.exists_cons_of_ne_nil hdigits.1
    have hd := hdigits.2 d List.mem_cons_self
    have hminus : d ≠ '-' := by rintro rfl; exact absurd hd (by decide)
    have hplus : d ≠ '+' := by rintro rfl; exact absurd hd (by decide)
    have htake := takeWhile_digits hdigits hdigit
    have hdrop := dropWhile_digits hdigits hdigit
    rw [List.cons_append] at htake hdrop
    simp [exponent?, hletter, hminus, hplus, htake, hdrop]
  | plus hletter hdigits =>
    rw [List.cons_append, List.cons_append, exponent?]
    simp [hletter, takeWhile_digits hdigits hdigit, dropWhile_digits hdigits hdigit, isEmpty_digits hdigits]
  | minus hletter hdigits =>
    rw [List.cons_append, List.cons_append, exponent?]
    simp [hletter, takeWhile_digits hdigits hdigit, dropWhile_digits hdigits hdigit, isEmpty_digits hdigits]

theorem fraction?_of_fraction {fs rest : List Char} {fraction : Option (List Char)} (h : Fraction fs fraction)
    (hdigit : ∀ c, rest.head? = some c → isDigit c = false) (hdot : rest.head? ≠ some '.') :
    fraction? (fs ++ rest) = some (fraction, rest) := by
  cases h with
  | absent =>
    cases rest with
    | nil => rfl
    | cons c rest =>
      have hc : c ≠ '.' := fun hc => hdot (congrArg some hc)
      simp [fraction?, hc]
  | present hdigits =>
    rw [List.cons_append, fraction?]
    simp [takeWhile_digits hdigits hdigit, dropWhile_digits hdigits hdigit, isEmpty_digits hdigits]

theorem Exponent.head {es rest : List Char} {exponent : Option Int} (h : Exponent es exponent) (hrest : Apart rest) :
    ∀ c, (es ++ rest).head? = some c → isDigit c = false ∧ c ≠ '.' := by
  have hletters : ∀ {e c : Char}, e = 'e' ∨ e = 'E' → some e = some c → isDigit c = false ∧ c ≠ '.' := by
    rintro e c (rfl | rfl) ⟨⟩ <;> decide
  cases h with
  | absent => exact fun c hc => ⟨(hrest c hc).1, (hrest c hc).2.1⟩
  | unsigned hletter _ => exact fun c => hletters hletter
  | plus hletter _ => exact fun c => hletters hletter
  | minus hletter _ => exact fun c => hletters hletter

theorem Fraction.head {fs rest : List Char} {fraction : Option (List Char)} (h : Fraction fs fraction)
    (hrest : ∀ c, rest.head? = some c → isDigit c = false) :
    ∀ c, (fs ++ rest).head? = some c → isDigit c = false := by
  cases h with
  | absent => exact hrest
  | present _ =>
    rintro c ⟨⟩
    rfl

theorem number?_of_number {cs rest : List Char} {json : Json} (h : Number cs json) (hrest : Apart rest) :
    number? (cs ++ rest) = some (json, rest) := by
  obtain @⟨negative, whole, fs, es, fraction, exponent, hwhole, hzero, hfraction, hexponent⟩ := h
  have hhead := hexponent.head hrest
  have hexponent' := exponent?_of_exponent hexponent hrest
  have hfraction' := fraction?_of_fraction hfraction (fun c hc => (hhead c hc).1) (fun hc => (hhead '.' hc).2 rfl)
  have hdigit := hfraction.head fun c hc => (hhead c hc).1
  have htake := takeWhile_digits hwhole hdigit
  have hdrop := dropWhile_digits hwhole hdigit
  obtain ⟨d, ds, rfl⟩ := List.exists_cons_of_ne_nil hwhole.1
  have hminus : d ≠ '-' := by
    rintro rfl
    exact absurd (hwhole.2 _ List.mem_cons_self) (by decide)
  have hzeros : 0 < ds.length → d ≠ '0' := by
    rintro hlength rfl
    exact hzero (Nat.succ_lt_succ hlength) rfl
  rw [List.cons_append] at htake hdrop
  cases negative <;>
    simp [Json.minus, number?, hminus, htake, hdrop, hfraction', hexponent', numberValue] <;>
    exact ⟨hzeros, by split <;> rfl⟩

/-! ### Pieces and members -/

theorem commaSeparated_cons_cons (a b : List Char) (rest : List (List Char)) :
    commaSeparated (a :: b :: rest) = a ++ ',' :: commaSeparated (b :: rest) := by
  simp [commaSeparated, List.intercalate]

theorem exists_commaSeparated (a : List Char) (rest : List (List Char)) :
    ∃ more, commaSeparated (a :: rest) = a ++ more := by
  cases rest with
  | nil => exact ⟨[], by rw [commaSeparated, List.intercalate_singleton, List.append_nil]⟩
  | cons b rest => exact ⟨_, commaSeparated_cons_cons a b rest⟩

theorem skip_append {blanks : List Char} (hblanks : Blanks blanks) (cs : List Char) : skip (blanks ++ cs) = skip cs :=
  List.dropWhile_append_of_pos hblanks

theorem skip_cons {c : Char} (hc : isSpace c = false) (cs : List Char) : skip (c :: cs) = c :: cs :=
  List.dropWhile_cons_of_neg (by simp [hc])

theorem skip_skip (cs : List Char) : skip (skip cs) = skip cs :=
  List.dropWhile_idempotent isSpace cs

theorem Apart.of_space {c : Char} (hc : isSpace c = true) (rest : List Char) : Apart (c :: rest) := by
  rintro d ⟨⟩
  simp only [isSpace, Bool.or_eq_true, beq_iff_eq] at hc
  obtain ((rfl | rfl) | rfl) | rfl := hc <;> decide

theorem Apart.of_blanks {blanks rest : List Char} (hblanks : Blanks blanks) (hrest : Apart rest) :
    Apart (blanks ++ rest) := by
  cases blanks with
  | nil => exact hrest
  | cons c blanks => exact .of_space (hblanks c List.mem_cons_self) _

/-- A value does not begin with a blank or a closing bracket. -/
def Starts (cs : List Char) : Prop :=
  ∃ c tail, cs = c :: tail ∧ isSpace c = false ∧ c ≠ ']' ∧ c ≠ '\x7d'

/-- A value is read from the front of what begins with it. -/
structure Reads (cs : List Char) (json : Json) : Prop where
  starts : Starts cs
  read : ∀ fuel rest, cs.length ≤ fuel → Apart rest → value? fuel (cs ++ rest) = some (json, rest)

theorem Reads.skip {cs : List Char} {json : Json} (h : Reads cs json) (rest : List Char) :
    Json.skip (cs ++ rest) = cs ++ rest := by
  obtain ⟨c, tail, rfl, hc, -⟩ := h.starts
  exact skip_cons hc _

theorem Piece.read {piece : Piece} (hspaced : piece.Spaced) (hreads : Reads piece.chars piece.value) {fuel : Nat}
    (hfuel : piece.text.length ≤ fuel) {more : List Char} (hmore : Apart more) :
    value? fuel (Json.skip (piece.text ++ more)) = some (piece.value, piece.after ++ more) := by
  rw [Piece.text, List.append_assoc, List.append_assoc, skip_append hspaced.1, hreads.skip]
  refine hreads.read fuel _ ?_ (.of_blanks hspaced.2 hmore)
  rw [Piece.text, List.length_append, List.length_append] at hfuel
  omega

theorem items?_last {cs after rest : List Char} {item : Json} {fuel : Nat}
    (hitem : value? fuel (skip cs) = some (item, after)) (hafter : skip after = ']' :: rest) :
    items? (fuel + 1) cs = some ([item], rest) := by
  rw [items?, hitem]
  simp [hafter]

theorem items?_more {cs after more rest : List Char} {item : Json} {items : List Json} {fuel : Nat}
    (hitem : value? fuel (skip cs) = some (item, after)) (hafter : skip after = ',' :: more)
    (hmore : items? fuel more = some (items, rest)) : items? (fuel + 1) cs = some (item :: items, rest) := by
  rw [items?, hitem]
  simp [hafter, hmore]

theorem items?_of_reads {pieces : List Piece} (hpieces : pieces ≠ []) (hspaced : ∀ piece ∈ pieces, piece.Spaced)
    (hreads : ∀ piece ∈ pieces, Reads piece.chars piece.value) {fuel : Nat}
    (hfuel : (commaSeparated (pieces.map Piece.text)).length < fuel) (rest : List Char) :
    items? fuel (commaSeparated (pieces.map Piece.text) ++ ']' :: rest) = some (pieces.map Piece.value, rest) := by
  induction pieces generalizing fuel with
  | nil => exact absurd rfl hpieces
  | cons piece pieces ih =>
    obtain ⟨fuel, rfl⟩ : ∃ n, fuel = n + 1 := ⟨fuel - 1, by omega⟩
    obtain ⟨hpiece, hspaced⟩ := List.forall_mem_cons.mp hspaced
    obtain ⟨hread, hreads⟩ := List.forall_mem_cons.mp hreads
    cases pieces with
    | nil =>
      have hclose : Apart (']' :: rest) := by rintro c ⟨⟩; decide
      simp only [List.map_cons, List.map_nil, commaSeparated, List.intercalate_singleton] at hfuel ⊢
      refine items?_last (piece.read hpiece hread (by omega) hclose) ?_
      rw [skip_append hpiece.2, skip_cons (by decide)]
    | cons next pieces =>
      have hcomma : ∀ more, Apart (',' :: more) := by rintro more c ⟨⟩; decide
      rw [List.map_cons, List.map_cons, commaSeparated_cons_cons] at hfuel ⊢
      rw [List.length_append, List.length_cons] at hfuel
      rw [List.append_assoc]
      refine items?_more (piece.read hpiece hread (by omega) (hcomma _)) ?_
        (ih (List.cons_ne_nil _ _) hspaced hreads (by rw [List.map_cons]; omega))
      rw [skip_append hpiece.2]
      exact skip_cons (by decide) _

/-- A member stands at the front of what is left, and `after` follows it. -/
def MemberAt (fuel : Nat) (cs : List Char) (entry : String × Json) (after : List Char) : Prop :=
  ∃ tail name colon start, skip cs = '"' :: tail ∧ textTail? (tail.length + 1) tail = some (name, colon) ∧
    skip colon = ':' :: start ∧ value? fuel (skip start) = some (entry.2, after) ∧ entry.1 = String.ofList name

theorem Member.read {member : Member} (hspaced : member.Spaced) (hname : Chars member.spelled member.name)
    (hreads : Reads member.chars member.value) {fuel : Nat} (hfuel : member.text.length ≤ fuel) {more : List Char}
    (hmore : Apart more) : MemberAt fuel (member.text ++ more) member.entry (member.after ++ more) := by
  obtain ⟨hindent, hgap, hpiece⟩ := hspaced
  have hquote : skip (member.text ++ more) =
      '"' :: (member.spelled ++ '"' :: (member.gap ++ ':' :: (member.toPiece.text ++ more))) := by
    rw [Member.text, List.append_assoc, skip_append hindent, List.cons_append, skip_cons (by decide)]
    simp only [List.append_assoc, List.cons_append]
  have hcolon : skip (member.gap ++ ':' :: (member.toPiece.text ++ more)) = ':' :: (member.toPiece.text ++ more) := by
    rw [skip_append hgap, skip_cons (by decide)]
  have hlength : member.toPiece.text.length ≤ fuel := by
    simp only [Member.text, List.length_append, List.length_cons] at hfuel
    omega
  exact ⟨_, _, _, _, hquote, textTail?_of_chars hname _ (by rw [List.length_append]; omega), hcolon,
    member.toPiece.read hpiece hreads hlength hmore, rfl⟩

theorem members?_last {cs after rest : List Char} {entry : String × Json} {fuel : Nat}
    (hmember : MemberAt fuel cs entry after) (hafter : skip after = '\x7d' :: rest) :
    members? (fuel + 1) cs = some ([entry], rest) := by
  obtain ⟨tail, name, colon, start, hcs, hname, hcolon, hvalue, hentry⟩ := hmember
  rw [members?, hcs]
  simp [hname, hcolon, hvalue, hafter, ← hentry]

theorem members?_more {cs after more rest : List Char} {entry : String × Json} {entries : List (String × Json)}
    {fuel : Nat} (hmember : MemberAt fuel cs entry after) (hafter : skip after = ',' :: more)
    (hmore : members? fuel more = some (entries, rest)) : members? (fuel + 1) cs = some (entry :: entries, rest) := by
  obtain ⟨tail, name, colon, start, hcs, hname, hcolon, hvalue, hentry⟩ := hmember
  rw [members?, hcs]
  simp [hname, hcolon, hvalue, hafter, hmore, ← hentry]

theorem members?_of_reads {members : List Member} (hmembers : members ≠ [])
    (hspaced : ∀ member ∈ members, member.Spaced) (hnames : ∀ member ∈ members, Chars member.spelled member.name)
    (hreads : ∀ member ∈ members, Reads member.chars member.value) {fuel : Nat}
    (hfuel : (commaSeparated (members.map Member.text)).length < fuel) (rest : List Char) :
    members? fuel (commaSeparated (members.map Member.text) ++ '\x7d' :: rest) =
      some (members.map Member.entry, rest) := by
  induction members generalizing fuel with
  | nil => exact absurd rfl hmembers
  | cons member members ih =>
    obtain ⟨fuel, rfl⟩ : ∃ n, fuel = n + 1 := ⟨fuel - 1, by omega⟩
    obtain ⟨hmember, hspaced⟩ := List.forall_mem_cons.mp hspaced
    obtain ⟨hname, hnames⟩ := List.forall_mem_cons.mp hnames
    obtain ⟨hread, hreads⟩ := List.forall_mem_cons.mp hreads
    cases members with
    | nil =>
      have hclose : Apart ('\x7d' :: rest) := by rintro c ⟨⟩; decide
      simp only [List.map_cons, List.map_nil, commaSeparated, List.intercalate_singleton] at hfuel ⊢
      refine members?_last (member.read hmember hname hread (by omega) hclose) ?_
      rw [skip_append hmember.2.2.2, skip_cons (by decide)]
    | cons next members =>
      have hcomma : ∀ more, Apart (',' :: more) := by rintro more c ⟨⟩; decide
      rw [List.map_cons, List.map_cons, commaSeparated_cons_cons] at hfuel ⊢
      rw [List.length_append, List.length_cons] at hfuel
      rw [List.append_assoc]
      refine members?_more (member.read hmember hname hread (by omega) (hcomma _)) ?_
        (ih (List.cons_ne_nil _ _) hspaced hnames hreads (by rw [List.map_cons]; omega))
      rw [skip_append hmember.2.2.2]
      exact skip_cons (by decide) _

/-! ### Values -/

/-- A number begins with a digit, perhaps after a minus sign. -/
theorem Number.head {cs : List Char} {json : Json} (h : Number cs json) :
    ∃ d tail, isDigit d = true ∧ (cs = d :: tail ∨ cs = '-' :: d :: tail) := by
  obtain @⟨negative, whole, fs, es, fraction, exponent, hwhole, -, -, -⟩ := h
  obtain ⟨d, ds, rfl⟩ := List.exists_cons_of_ne_nil hwhole.1
  refine ⟨d, ds ++ (fs ++ es), hwhole.2 d List.mem_cons_self, ?_⟩
  cases negative with
  | false => exact .inl rfl
  | true => exact .inr rfl

theorem ne_of_isDigit {c d : Char} (hc : isDigit c = true) (hd : isDigit d = false) : c ≠ d := by
  rintro rfl
  exact absurd hc (by simp [hd])

theorem value?_eq_number? {cs : List Char} {json : Json} (h : Number cs json) (fuel : Nat) (rest : List Char) :
    value? (fuel + 1) (cs ++ rest) = number? (cs ++ rest) := by
  obtain ⟨d, tail, hd, rfl | rfl⟩ := h.head
  · apply value?.eq_11 <;> intro more hmore <;> exact ne_of_isDigit hd rfl (List.cons.inj hmore).1
  · -- Only the word for an infinity begins with a minus sign too.
    apply value?.eq_11 <;> rintro more ⟨⟩
    exact absurd hd (by decide)

theorem items?_skip (fuel : Nat) (cs : List Char) : items? fuel (skip cs) = items? fuel cs := by
  cases fuel with
  | zero => rw [items?, items?]
  | succ fuel => rw [items?, items?, skip_skip]

theorem members?_skip (fuel : Nat) (cs : List Char) : members? fuel (skip cs) = members? fuel cs := by
  cases fuel with
  | zero => rw [members?, members?]
  | succ fuel => rw [members?, members?, skip_skip]

theorem value?_list {cs rest : List Char} {items : List Json} {fuel : Nat} (hopen : (skip cs).head? ≠ some ']')
    (hitems : items? fuel cs = some (items, rest)) : value? (fuel + 1) ('[' :: cs) = some (.list items, rest) := by
  rw [← items?_skip] at hitems
  rw [value?]
  cases hskip : skip cs with
  | nil => rw [hskip] at hitems; simp [hitems]
  | cons c tail =>
    rw [hskip] at hitems hopen
    have hc : c ≠ ']' := fun hc => hopen (congrArg some hc)
    simp [hc, hitems]

theorem value?_object {cs rest : List Char} {members : List (String × Json)} {fuel : Nat}
    (hopen : (skip cs).head? ≠ some '\x7d') (hmembers : members? fuel cs = some (members, rest)) :
    value? (fuel + 1) ('\x7b' :: cs) = some (.object (OrderedMap.ofList members).entries, rest) := by
  rw [← members?_skip] at hmembers
  rw [value?]
  cases hskip : skip cs with
  | nil => rw [hskip] at hmembers; simp [hmembers]
  | cons c tail =>
    rw [hskip] at hmembers hopen
    have hc : c ≠ '\x7d' := fun hc => hopen (congrArg some hc)
    simp [hc, hmembers]

theorem Written.starts {cs : List Char} {json : Json} (h : Written cs json) : Starts cs := by
  cases h with
  | null => exact ⟨_, _, rfl, by decide⟩
  | yes => exact ⟨_, _, rfl, by decide⟩
  | no => exact ⟨_, _, rfl, by decide⟩
  | number hnumber =>
    obtain ⟨d, tail, hd, rfl | rfl⟩ := hnumber.head
    · refine ⟨d, tail, rfl, ?_, ne_of_isDigit hd rfl, ne_of_isDigit hd rfl⟩
      have hne := fun c => ne_of_isDigit (d := c) hd
      simp [isSpace, hne ' ' rfl, hne '\n' rfl, hne '\r' rfl, hne '\t' rfl]
    · exact ⟨_, _, rfl, by decide⟩
  | text _ => exact ⟨_, _, rfl, by decide⟩
  | emptyList _ => exact ⟨_, _, rfl, by decide⟩
  | list _ _ _ => exact ⟨_, _, rfl, by decide⟩
  | emptyObject _ => exact ⟨_, _, rfl, by decide⟩
  | object _ _ _ _ _ => exact ⟨_, _, rfl, by decide⟩

theorem insertEntry_of_notMem {entries : List (String × Json)} {name : String} (h : ∀ entry ∈ entries, entry.1 ≠ name)
    (value : Json) : OrderedMap.insertEntry name value entries = entries ++ [(name, value)] := by
  induction entries with
  | nil => rfl
  | cons entry entries ih =>
    obtain ⟨hentry, hentries⟩ := List.forall_mem_cons.mp h
    rw [OrderedMap.insertEntry, if_neg (by simpa using hentry), ih hentries, List.cons_append]

/-- Members with different names are all kept, in their order. -/
theorem entries_ofList {members : List (String × Json)} (hdistinct : members.Pairwise fun a b => a.1 ≠ b.1) :
    (OrderedMap.ofList members).entries = members := by
  induction members using List.reverseRecOn with
  | nil => rfl
  | append_singleton members last ih =>
    obtain ⟨hmembers, -, hlast⟩ := List.pairwise_append.mp hdistinct
    have hentries := ih hmembers
    rw [OrderedMap.ofList] at hentries ⊢
    rw [List.foldl_append, List.foldl_cons, List.foldl_nil, OrderedMap.insert, hentries]
    exact insertEntry_of_notMem (fun entry hentry => hlast entry hentry last List.mem_cons_self) last.2

theorem Reads.intro {cs : List Char} {json : Json} (hstarts : Starts cs)
    (hread : ∀ fuel rest, cs.length ≤ fuel + 1 → Apart rest → value? (fuel + 1) (cs ++ rest) = some (json, rest)) :
    Reads cs json := by
  refine ⟨hstarts, fun fuel rest hfuel hrest => ?_⟩
  obtain ⟨c, tail, rfl, -⟩ := hstarts
  obtain ⟨fuel, rfl⟩ : ∃ n, fuel = n + 1 := ⟨fuel - 1, by rw [List.length_cons] at hfuel; omega⟩
  exact hread fuel rest hfuel hrest

theorem head_skip_pieces {pieces : List Piece} (hpieces : pieces ≠ []) (hspaced : ∀ piece ∈ pieces, piece.Spaced)
    (hreads : ∀ piece ∈ pieces, Reads piece.chars piece.value) (rest : List Char) :
    (skip (commaSeparated (pieces.map Piece.text) ++ rest)).head? ≠ some ']' := by
  obtain ⟨piece, pieces, rfl⟩ := List.exists_cons_of_ne_nil hpieces
  obtain ⟨c, tail, hchars, hspace, hbracket, -⟩ := (hreads piece List.mem_cons_self).starts
  obtain ⟨more, hmore⟩ := exists_commaSeparated piece.text (pieces.map Piece.text)
  rw [List.map_cons, hmore, Piece.text, List.append_assoc, List.append_assoc,
    skip_append (hspaced piece List.mem_cons_self).1, hchars, List.cons_append, List.cons_append, skip_cons hspace]
  simpa using hbracket

theorem head_skip_members {members : List Member} (hmembers : members ≠ [])
    (hspaced : ∀ member ∈ members, member.Spaced) (rest : List Char) :
    (skip (commaSeparated (members.map Member.text) ++ rest)).head? ≠ some '\x7d' := by
  obtain ⟨member, members, rfl⟩ := List.exists_cons_of_ne_nil hmembers
  obtain ⟨more, hmore⟩ := exists_commaSeparated member.text (members.map Member.text)
  rw [List.map_cons, hmore, Member.text, List.append_assoc, List.append_assoc,
    skip_append (hspaced member List.mem_cons_self).1, List.cons_append, skip_cons (by decide)]
  simp

/-- Every value of the grammar is read, with its meaning. -/
theorem Written.reads {cs : List Char} {json : Json} (h : Written cs json) : Reads cs json := by
  induction h with
  | null => exact .intro Written.null.starts fun _ _ _ _ => rfl
  | yes => exact .intro Written.yes.starts fun _ _ _ _ => rfl
  | no => exact .intro Written.no.starts fun _ _ _ _ => rfl
  | number hnumber =>
    refine .intro (Written.number hnumber).starts fun fuel rest hfuel hrest => ?_
    rw [value?_eq_number? hnumber, number?_of_number hnumber hrest]
  | @text cs s hchars =>
    refine .intro (Written.text hchars).starts fun fuel rest hfuel hrest => ?_
    have hlength : cs.length < (cs ++ '"' :: rest).length + 1 := by
      rw [List.length_append]
      omega
    rw [List.cons_append, List.append_assoc, List.singleton_append, value?, textTail?_of_chars hchars rest hlength]
    rfl
  | emptyList hblanks =>
    refine .intro (Written.emptyList hblanks).starts fun fuel rest hfuel hrest => ?_
    rw [List.cons_append, List.append_assoc, value?, skip_append hblanks]
    rfl
  | list hpieces hspaced hwritten ih =>
    refine .intro (Written.list hpieces hspaced hwritten).starts fun fuel rest hfuel hrest => ?_
    rw [List.cons_append, List.append_assoc]
    rw [List.length_cons, List.length_append, List.length_singleton] at hfuel
    exact value?_list (head_skip_pieces hpieces hspaced ih _) (items?_of_reads hpieces hspaced ih (by omega) rest)
  | emptyObject hblanks =>
    refine .intro (Written.emptyObject hblanks).starts fun fuel rest hfuel hrest => ?_
    rw [List.cons_append, List.append_assoc, value?, skip_append hblanks]
    rfl
  | object hmembers hspaced hnames hdistinct hwritten ih =>
    refine .intro (Written.object hmembers hspaced hnames hdistinct hwritten).starts fun fuel rest hfuel hrest => ?_
    rw [List.cons_append, List.append_assoc]
    rw [List.length_cons, List.length_append, List.length_singleton] at hfuel
    have hread := members?_of_reads hmembers hspaced hnames ih (by omega : _ < fuel) rest
    rw [← entries_ofList hdistinct]
    exact value?_object (head_skip_members hmembers hspaced _) hread

/-- Every text of the grammar is read, with its meaning. -/
theorem parse?_of_document {cs : List Char} {json : Json} (h : Document cs json) :
    parse? (String.ofList cs) = some json := by
  obtain ⟨before, chars, after, rfl, hbefore, hafter, hwritten⟩ := h
  have hapart : Apart after := by
    rw [← List.append_nil after]
    exact .of_blanks hafter (by rintro c ⟨⟩)
  have hvalue := hwritten.reads.read ((before ++ (chars ++ after)).length + 1) after
    (by rw [List.length_append, List.length_append]; omega) hapart
  have hend : skip after = [] := by
    rw [← List.append_nil after, skip_append hafter]
    rfl
  rw [parse?, String.toList_ofList, skip_append hbefore, hwritten.reads.skip]
  simp only [hvalue, hend]
  rfl

theorem Document.unique {cs : List Char} {json other : Json} (h : Document cs json) (hother : Document cs other) :
    json = other :=
  Option.some.inj ((parse?_of_document h).symm.trans (parse?_of_document hother))

end Deadwood.Json
