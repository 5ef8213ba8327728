/-
Computations that succeed or fail.

What is known of a sequence of computations is when it fails and how.  A list of them fails
as the first one does that fails (`mapM_eq_error_iff`, `foldlM_eq_error_iff`), and where only
the failure counts the results may be left out (`discard`).
-/

namespace Deadwood

variable {α β γ δ ε : Type} {x : Except ε α}

/-! ### One after the other -/

theorem bind_eq_error_iff {f : α → Except ε β} {error : ε} :
    (x >>= f) = .error error ↔ x = .error error ∨ ∃ a, x = .ok a ∧ f a = .error error := by
  cases x <;> simp [bind, Except.bind]

theorem bind_eq_ok_iff {f : α → Except ε β} {result : β} :
    (x >>= f) = .ok result ↔ ∃ a, x = .ok a ∧ f a = .ok result := by
  cases x <;> simp [bind, Except.bind]

theorem mapError_eq_error_iff {f : ε → δ} {error : δ} :
    x.mapError f = .error error ↔ ∃ cause, x = .error cause ∧ f cause = error := by
  cases x with
  | error cause =>
    show Except.error (f cause) = .error error ↔ _
    simp
  | ok a =>
    show Except.ok a = .error error ↔ _
    simp

theorem mapError_eq_ok_iff {f : ε → δ} {result : α} : x.mapError f = .ok result ↔ x = .ok result := by
  cases x with
  | error cause =>
    show Except.error (f cause) = .ok result ↔ _
    simp
  | ok a =>
    show Except.ok a = .ok result ↔ _
    simp

theorem exists_bind_ok {f : α → Except ε β} (hx : ∃ a, x = .ok a) (hf : ∀ a, ∃ b, f a = .ok b) :
    ∃ b, (x >>= f) = .ok b := by
  obtain ⟨a, rfl⟩ := hx
  exact hf a

/-! ### Lists of computations -/

section Lists

variable {f : α → Except ε β} {items : List α} {error : ε}

theorem exists_mapM_ok (h : ∀ x ∈ items, ∃ y, f x = .ok y) : ∃ results, items.mapM f = .ok results := by
  induction items with
  | nil => exact ⟨[], rfl⟩
  | cons x rest ih =>
    rw [List.mapM_cons]
    refine exists_bind_ok (h x List.mem_cons_self) fun y => ?_
    exact exists_bind_ok (ih fun x' hx' => h x' (List.mem_cons_of_mem _ hx')) fun ys => ⟨_, rfl⟩

/-- The first item that fails decides how all fail. -/
theorem mapM_eq_error_iff : items.mapM f = .error error ↔ ∃ before item after, items = before ++ item :: after ∧
    (∀ x ∈ before, ∃ y, f x = .ok y) ∧ f item = .error error := by
  constructor
  · intro h
    induction items with
    | nil => cases h
    | cons first rest ih =>
      rw [List.mapM_cons, bind_eq_error_iff] at h
      obtain hfirst | ⟨y, hfirst, hmore⟩ := h
      · exact ⟨[], first, rest, rfl, by simp, hfirst⟩
      · obtain hrest | ⟨ys, -, hpure⟩ := bind_eq_error_iff.mp hmore
        · obtain ⟨before, item, after, rfl, hbefore, hitem⟩ := ih hrest
          exact ⟨first :: before, item, after, rfl, List.forall_mem_cons.mpr ⟨⟨y, hfirst⟩, hbefore⟩, hitem⟩
        · cases hpure
  · rintro ⟨before, item, after, rfl, hbefore, hitem⟩
    obtain ⟨results, hresults⟩ := exists_mapM_ok hbefore
    rw [List.mapM_append, List.mapM_cons, hresults, hitem]
    rfl

/-- Where there is one way to fail, the order of the items does not count. -/
theorem mapM_eq_error_iff_of_unique (hunique : ∀ x other, f x = .error other → other = error) :
    items.mapM f = .error error ↔ ∃ item ∈ items, f item = .error error := by
  constructor
  · intro h
    obtain ⟨before, item, after, rfl, -, hitem⟩ := mapM_eq_error_iff.mp h
    exact ⟨item, List.mem_append_right _ List.mem_cons_self, hitem⟩
  · rintro ⟨item, hmem, hitem⟩
    obtain ⟨before, after, rfl⟩ := List.append_of_mem hmem
    rw [List.mapM_append, List.mapM_cons]
    cases hbefore : before.mapM f with
    | ok results =>
      rw [hitem]
      rfl
    | error other =>
      obtain ⟨-, earlier, -, -, -, hearlier⟩ := mapM_eq_error_iff.mp hbefore
      rw [hunique earlier other hearlier]
      rfl

theorem foldlM_eq_error_iff {f : α → β → Except ε α} {start : α} {items : List β} :
    items.foldlM f start = .error error ↔ ∃ before item after reached, items = before ++ item :: after ∧
      before.foldlM f start = .ok reached ∧ f reached item = .error error := by
  constructor
  · intro h
    induction items generalizing start with
    | nil => cases h
    | cons first rest ih =>
      rw [List.foldlM_cons, bind_eq_error_iff] at h
      obtain hfirst | ⟨next, hfirst, hrest⟩ := h
      · exact ⟨[], first, rest, start, rfl, rfl, hfirst⟩
      · obtain ⟨before, item, after, reached, rfl, hbefore, hitem⟩ := ih hrest
        refine ⟨first :: before, item, after, reached, rfl, ?_, hitem⟩
        rw [List.foldlM_cons, hfirst]
        exact hbefore
  · rintro ⟨before, item, after, reached, rfl, hbefore, hitem⟩
    rw [List.foldlM_append, hbefore]
    show (f reached item >>= fun next => after.foldlM f next) = .error error
    rw [hitem]
    rfl

end Lists

/-! ### Results that do not count -/

/-- A computation without its result. -/
def discard (x : Except ε α) : Except ε Unit :=
  x.map fun _ => ()

theorem discard_eq_error_iff {error : ε} : discard x = .error error ↔ x = .error error := by
  cases x <;> simp [discard, Except.map]

/-- A sequence that goes on whatever its first result is fails as a list of checks does. -/
theorem discard_bind {f : α → Except ε β} {g : γ → Except ε Unit} {item : γ} {items : List γ}
    (hx : discard x = g item) (hf : ∀ a, discard (f a) = discard (items.mapM g)) :
    discard (x >>= f) = discard ((item :: items).mapM g) := by
  rw [List.mapM_cons, ← hx]
  cases x with
  | error error => rfl
  | ok a =>
    refine (hf a).trans ?_
    cases items.mapM g <;> rfl

end Deadwood
