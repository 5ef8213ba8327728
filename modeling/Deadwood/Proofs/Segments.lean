/-
Splitting a path into segments and joining them again.

A colon may stand in a segment, so not every list of segments can be read back
from its text: `a` and `:b` join to the same text as `a:` and `b`.  The lists
that can are the *separable* ones, in which no piece holds a separator and no
piece but the last ends with a colon.

* **`separable_split`** — what `split` gives is separable, since it takes the
  leftmost separator first;
* **`split_join`** — separable segments are read back from their text;
* **`eq_of_join_eq`** — hence they are determined by it;
* **`separable_of_colonFree`** — in particular segments without colons, which is what
  names are.

The last part is about the two shapes of path that a call can stand in: a
function, or the body of a module (`isModuleBody_join`).
-/
import Deadwood.ModulePath
import Mathlib.Data.List.Infix

namespace Deadwood.ModulePath

/-- A text that holds no separator. -/
def Unbroken (chars : List Char) : Prop :=
  ¬ [':', ':'] <:+: chars

/-- Pieces whose boundaries can be found again: none holds a separator, and one that ends with a colon has no piece
after it. -/
def Separable (ps : List (List Char)) : Prop :=
  (∀ u ∈ ps, Unbroken u) ∧ ps.Pairwise fun u _ => u.getLast? ≠ some ':'

theorem Separable.sublist {ps qs : List (List Char)} (h : Separable qs) (hsub : ps.Sublist qs) : Separable ps :=
  ⟨fun u hu => h.1 u (hsub.subset hu), h.2.sublist hsub⟩

theorem Unbroken.tail {c : Char} {u : List Char} (h : Unbroken (c :: u)) : Unbroken u :=
  fun hsep => h (hsep.trans (List.suffix_cons c u).isInfix)

theorem unbroken_nil : Unbroken [] := by
  rintro ⟨s, t, h⟩
  simp at h

/-- A character in front of an unbroken text keeps it unbroken unless two colons meet. -/
theorem Unbroken.cons {c : Char} {u : List Char} (h : Unbroken u)
    (hmeet : ∀ v, c = ':' → u = ':' :: v → False) : Unbroken (c :: u) := by
  intro hsep
  rcases List.infix_cons_iff.mp hsep with ⟨t, ht⟩ | hsep
  · simp only [List.cons_append, List.nil_append, List.cons.injEq] at ht
    exact hmeet t ht.1.symm ht.2.symm
  · exact h hsep

/-! ### Pieces of a text -/

theorem pieces_cons {c : Char} {rest : List Char} (hmeet : ∀ v, c = ':' → rest = ':' :: v → False) :
    pieces (c :: rest) = consFirst c (pieces rest) :=
  pieces.eq_3 c rest hmeet

/-- An unbroken text that does not end with a colon is the first piece of what begins with it and a separator. -/
theorem pieces_append_separator {u : List Char} (hu : Unbroken u) (hlast : u.getLast? ≠ some ':')
    (rest : List Char) : pieces (u ++ ':' :: ':' :: rest) = u :: pieces rest := by
  induction u with
  | nil => rfl
  | cons c u ih =>
    have hlast' : u.getLast? ≠ some ':' := by
      intro h
      rw [List.getLast?_cons, h] at hlast
      exact hlast rfl
    rw [List.cons_append, pieces_cons, ih hu.tail hlast', consFirst]
    -- Two colons meet neither inside `c :: u` nor at its end.
    rintro v rfl hv
    cases u with
    | nil => exact hlast rfl
    | cons d u =>
      rw [List.cons_append, List.cons.injEq] at hv
      exact hu ⟨[], u, by rw [hv.1]; rfl⟩

theorem pieces_of_unbroken {u : List Char} (hu : Unbroken u) : pieces u = [u] := by
  induction u with
  | nil => rfl
  | cons c u ih =>
    rw [pieces_cons, ih hu.tail, consFirst]
    rintro v rfl rfl
    exact hu ⟨[], v, rfl⟩

theorem pieces_ne_nil (chars : List Char) : pieces chars ≠ [] := by
  fun_cases pieces chars with
  | case1 => exact List.cons_ne_nil _ _
  | case2 => exact List.cons_ne_nil _ _
  | case3 c rest =>
    cases pieces rest <;> exact List.cons_ne_nil _ _

/-- A text begins with a colon if its first piece does, or if its first piece is empty and another follows. -/
theorem begins_with_colon {rest first : List Char} {more : List (List Char)} (h : pieces rest = first :: more)
    (hfirst : (∃ v, first = ':' :: v) ∨ (first = [] ∧ more ≠ [])) : ∃ v, rest = ':' :: v := by
  fun_cases pieces rest with
  | case1 =>
    rw [pieces, List.cons.injEq] at h
    obtain ⟨rfl, rfl⟩ := h
    simp at hfirst
  | case2 rest => exact ⟨':' :: rest, rfl⟩
  | case3 c rest hmeet =>
    rw [pieces_cons hmeet] at h
    cases hp : pieces rest with
    | nil => exact absurd hp (pieces_ne_nil rest)
    | cons p ps =>
      rw [hp, consFirst, List.cons.injEq] at h
      obtain ⟨rfl, rfl⟩ := h
      simp only [List.cons.injEq, reduceCtorEq, false_and, or_false] at hfirst
      obtain ⟨v, rfl, -⟩ := hfirst
      exact ⟨rest, rfl⟩

/-- The pieces of a text are separable: the separators are taken from the left. -/
theorem separable_pieces (chars : List Char) : Separable (pieces chars) := by
  fun_induction pieces chars with
  | case1 => exact ⟨fun u hu => List.mem_singleton.mp hu ▸ unbroken_nil, List.pairwise_singleton _ _⟩
  | case2 rest ih =>
    refine ⟨fun u hu => ?_, List.pairwise_cons.mpr ⟨fun _ _ => by simp, ih.2⟩⟩
    rcases List.mem_cons.mp hu with rfl | hu
    · exact unbroken_nil
    · exact ih.1 u hu
  | case3 c rest hmeet ih =>
    cases hp : pieces rest with
    | nil => exact absurd hp (pieces_ne_nil rest)
    | cons p ps =>
      -- The character joins the first piece, and only there can two colons come together.
      rw [hp] at ih
      obtain ⟨hun, hpair⟩ := ih
      obtain ⟨hfirst, hrest⟩ := List.pairwise_cons.mp hpair
      rw [consFirst]
      constructor
      · intro u hu
        rcases List.mem_cons.mp hu with rfl | hu
        · refine (hun p List.mem_cons_self).cons fun v hc hv => ?_
          obtain ⟨w, hw⟩ := begins_with_colon hp (Or.inl ⟨v, hv⟩)
          exact hmeet w hc hw
        · exact hun u (List.mem_cons_of_mem _ hu)
      · refine List.pairwise_cons.mpr ⟨fun q hq => ?_, hrest⟩
        cases p with
        | nil =>
          -- The piece is `c` alone with a separator behind it, so `c` is no colon.
          intro hlast
          obtain rfl : c = ':' := by simpa using hlast
          obtain ⟨w, hw⟩ := begins_with_colon hp (Or.inr ⟨rfl, List.ne_nil_of_mem hq⟩)
          exact hmeet w rfl hw
        | cons d p =>
          rw [List.getLast?_cons_cons]
          exact hfirst q hq

/-- Separable pieces are the pieces of the text that they make with separators between them. -/
theorem pieces_intercalate {ps : List (List Char)} (hne : ps ≠ []) (h : Separable ps) :
    pieces ([':', ':'].intercalate ps) = ps := by
  induction ps with
  | nil => exact absurd rfl hne
  | cons u ps ih =>
    obtain ⟨hun, hpair⟩ := h
    cases ps with
    | nil =>
      rw [List.intercalate_singleton]
      exact pieces_of_unbroken (hun u List.mem_cons_self)
    | cons v ps =>
      have hlast : u.getLast? ≠ some ':' := (List.pairwise_cons.mp hpair).1 v List.mem_cons_self
      have htail : Separable (v :: ps) := Separable.sublist ⟨hun, hpair⟩ (List.sublist_cons_self u _)
      rw [List.intercalate_cons_cons, List.append_assoc]
      show pieces (u ++ ':' :: ':' :: [':', ':'].intercalate (v :: ps)) = u :: v :: ps
      rw [pieces_append_separator (hun u List.mem_cons_self) hlast, ih (List.cons_ne_nil _ _) htail]

/-! ### Segments of a path -/

theorem ne_empty_of_mem_split {path segment : String} (h : segment ∈ split path) : segment ≠ "" := by
  have h := (List.mem_filter.mp h).2
  exact bne_iff_ne.mp h

/-- What `split` gives is separable. -/
theorem separable_split (path : String) : Separable ((split path).map String.toList) := by
  -- Empty pieces are left out, which keeps the others separable.
  refine (separable_pieces path.toList).sublist ?_
  have hsub : ((split path).map String.toList).Sublist ((parts path).map String.toList) :=
    List.filter_sublist.map _
  have hparts : (parts path).map String.toList = pieces path.toList := by
    rw [parts, List.map_map]
    exact List.map_id'' (fun u => String.toList_ofList) _
  rwa [hparts] at hsub

theorem join_of_nonempty {segments : List String} (h : ∀ s ∈ segments, s ≠ "") :
    join segments = separator.intercalate segments := by
  rw [join, List.filter_eq_self.mpr fun s hs => bne_iff_ne.mpr (h s hs)]

theorem join_concat_ne_empty (segments : List String) {name : String} (h : name ≠ "") :
    join (segments ++ [name]) ≠ "" := by
  have hname : [name].filter (· != "") = [name] := by simp [h]
  rw [join, List.filter_append, hname]
  cases segments.filter (· != "") with
  | nil => simpa using h
  | cons first rest =>
    rw [String.intercalate_append_of_ne_nil (List.cons_ne_nil _ _) (List.cons_ne_nil _ _), String.intercalate_singleton]
    simp [h]

/-- Separable segments are read back from their text. -/
theorem split_join {segments : List String} (hne : ∀ s ∈ segments, s ≠ "")
    (h : Separable (segments.map String.toList)) : split (join segments) = segments := by
  cases segments with
  | nil => rfl
  | cons first rest =>
    have hpieces : pieces (join (first :: rest)).toList = (first :: rest).map String.toList := by
      rw [join_of_nonempty hne, String.toList_intercalate]
      exact pieces_intercalate (List.cons_ne_nil _ _) h
    have hback : ((first :: rest).map String.toList).map String.ofList = first :: rest := by
      rw [List.map_map]
      exact List.map_id'' (fun s => String.ofList_toList) _
    rw [split, parts, hpieces, hback]
    exact List.filter_eq_self.mpr fun s hs => bne_iff_ne.mpr (hne s hs)

/-- Separable segments are determined by their text. -/
theorem eq_of_join_eq {segments segments' : List String} (hne : ∀ s ∈ segments, s ≠ "")
    (hne' : ∀ s ∈ segments', s ≠ "") (h : Separable (segments.map String.toList))
    (h' : Separable (segments'.map String.toList)) (hjoin : join segments = join segments') :
    segments = segments' := by
  rw [← split_join hne h, ← split_join hne' h', hjoin]

/-- Segments without colons can be read back from their text. -/
theorem separable_of_colonFree {segments : List String} (h : ∀ s ∈ segments, ':' ∉ s.toList) :
    Separable (segments.map String.toList) := by
  constructor
  · intro u hu
    obtain ⟨s, hs, rfl⟩ := List.mem_map.mp hu
    exact fun hsep => h s hs (hsep.subset List.mem_cons_self)
  · refine List.pairwise_map.mpr (List.pairwise_of_forall_mem_list fun s hs _ _ hlast => ?_)
    exact h s hs (List.mem_of_getLast? hlast)

/-- A name that holds no colon is the first segment of what begins with it. -/
theorem head?_split_join {head : String} (hne : head ≠ "") (hcolon : ':' ∉ head.toList) (rest : List String) :
    (split (join (head :: rest))).head? = some head := by
  have hun : Unbroken head.toList := fun hsep => hcolon (hsep.subset List.mem_cons_self)
  have hlast : head.toList.getLast? ≠ some ':' := fun hlast => hcolon (List.mem_of_getLast? hlast)
  have hpieces : ∃ more, pieces (join (head :: rest)).toList = head.toList :: more := by
    rw [join, List.filter_cons, if_pos (bne_iff_ne.mpr hne), String.toList_intercalate, List.map_cons]
    cases (rest.filter (· != "")).map String.toList with
    | nil => exact ⟨[], by rw [List.intercalate_singleton, pieces_of_unbroken hun]⟩
    | cons next more =>
      rw [List.intercalate_cons_cons, List.append_assoc]
      exact ⟨_, pieces_append_separator hun hlast _⟩
  obtain ⟨more, hmore⟩ := hpieces
  rw [split, parts, hmore, List.map_cons, String.ofList_toList, List.filter_cons, if_pos (bne_iff_ne.mpr hne),
    List.head?_cons]

/-! ### Bodies of modules -/

/-- A path whose last segment stands for the body of a module does so itself. -/
theorem isModuleBody_join (segments : List String) : isModuleBody (join (segments ++ [moduleBody])) = true := by
  have hfilter : (segments ++ [moduleBody]).filter (· != "") = segments.filter (· != "") ++ [moduleBody] := by
    rw [List.filter_append]
    rfl
  rw [isModuleBody, join, hfilter]
  cases hrest : segments.filter (· != "") with
  | nil =>
    rw [List.nil_append, String.intercalate_singleton, beq_self_eq_true, Bool.true_or]
  | cons first rest =>
    rw [Bool.or_eq_true, endsWith, List.isSuffixOf_iff_suffix,
      String.intercalate_append_of_ne_nil (List.cons_ne_nil _ _) (List.cons_ne_nil _ _),
      String.intercalate_singleton, String.append_assoc]
    right
    rw [String.toList_append (s := separator.intercalate _)]
    exact List.suffix_append _ _

end Deadwood.ModulePath
