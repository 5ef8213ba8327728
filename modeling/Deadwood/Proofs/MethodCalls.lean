/-
Method calls on receivers of unknown type.

The type of a receiver is not inferred, so a method call is resolved by its name alone.
The methods of that name are candidates; if exactly one of them lies in the caller's
file, it is taken for the one that is meant.

* **`Catalog.mem_candidates_of_method`** — the candidates are all methods of the name,
  if there are any;
* **`Catalog.method_call_targets`** — a method call leads to all of them, or to the one
  in the caller's file if it is the only one there;
* **`Catalog.method_elsewhere_missed`** — so a method in another file can be missed.
-/
import Deadwood.Proofs.Agreement

namespace Deadwood.Catalog

variable {catalog : Catalog} {call : CallSite} {key : Key} {name : String}

/-- The key of a method with a name. -/
def MethodNamed (catalog : Catalog) (name : String) (key : Key) : Prop :=
  ∃ s ∈ catalog.symbols, s.key = key ∧ s.name = name ∧ s.isMethod = true

instance (catalog : Catalog) (name : String) (key : Key) : Decidable (catalog.MethodNamed name key) :=
  inferInstanceAs (Decidable (∃ s ∈ catalog.symbols, s.key = key ∧ s.name = name ∧ s.isMethod = true))

/-- A preference that some key satisfies takes those that do. -/
theorem prefer_of_ne_nil {test : Symbol → Bool} {keys : List Key}
    (h : keys.filter (fun key => (catalog.symbol? key).any test) ≠ []) :
    catalog.prefer test keys = keys.filter fun key => (catalog.symbol? key).any test := by
  rw [prefer]
  split
  · rename_i hnil
    exact absurd hnil h
  · rfl

theorem mem_methods :
    key ∈ (catalog.withName name).filter (fun key => (catalog.symbol? key).any (·.isMethod)) ↔
      catalog.MethodNamed name key := by
  rw [List.mem_filter, mem_withName, Option.any_eq_true]
  simp only [symbol?_eq_some_iff]
  constructor
  · rintro ⟨⟨s, hs, hkey, hname⟩, t, ⟨ht, htkey⟩, hmethod⟩
    obtain rfl := eq_of_key_eq hs ht (hkey.trans htkey.symm)
    exact ⟨s, hs, hkey, hname, hmethod⟩
  · rintro ⟨s, hs, hkey, hname, hmethod⟩
    exact ⟨⟨s, hs, hkey, hname⟩, s, ⟨hs, hkey⟩, hmethod⟩

/-- If there are methods of the name, they are the candidates of a method call. -/
theorem mem_candidates_of_method (hmethod : call.isMethodCall = true)
    (hsome : ∃ key, catalog.MethodNamed call.callee key) :
    key ∈ catalog.candidates call ↔ catalog.MethodNamed call.callee key := by
  obtain ⟨found, hfound⟩ := hsome
  have hne := List.ne_nil_of_mem (mem_methods.mpr hfound)
  rw [candidates, if_pos hmethod, prefer_of_ne_nil hne, mem_methods]

/-- A list without duplicates has one element exactly if it has a single one. -/
theorem exists_eq_singleton_iff {keys : List Key} (h : keys.Nodup) :
    (∃ key, keys = [key]) ↔ ∃! key, key ∈ keys := by
  constructor
  · rintro ⟨key, rfl⟩
    exact ⟨key, List.mem_singleton_self key, fun _ hother => List.mem_singleton.mp hother⟩
  · rintro ⟨key, hkey, hunique⟩
    refine ⟨key, List.perm_singleton.mp ((List.perm_ext_iff_of_nodup h (List.nodup_singleton key)).mpr fun other => ?_)⟩
    rw [List.mem_singleton]
    exact ⟨hunique other, fun heq => heq ▸ hkey⟩

theorem resolve_of_unknown_receiver (hmethod : call.isMethodCall = true) (hresolved : call.resolved = none) :
    catalog.resolve call = .ok (catalog.resolveByName call) := by
  have hlexical : catalog.lexical? call = none := by
    rw [lexical?, hmethod, Bool.or_true, Bool.true_or]
    rfl
  rw [resolve, hlexical, hresolved]
  exact map_linkByName catalog call

/-- **Where a method call on a receiver of unknown type leads.**  If the project has a method of the name that is
called, the call is linked.  Its targets are the methods of that name, each once: all of them, unless exactly one lies
in the caller's file, which is then the only target. -/
theorem method_call_targets (symbols : List Symbol) (imports : Imports) (hmethod : call.isMethodCall = true)
    (hresolved : call.resolved = none) (hsome : ∃ key, (ofProject symbols imports).MethodNamed call.callee key) :
    ∃ rule targets, (ofProject symbols imports).resolve call = .ok (.linked rule targets) ∧ targets.Nodup ∧
      ∀ key, key ∈ targets ↔ (ofProject symbols imports).MethodNamed call.callee key ∧
        ((∃! own, (ofProject symbols imports).MethodNamed call.callee own ∧ own.file = call.file) →
          key.file = call.file) := by
  have hmem : ∀ key, key ∈ (ofProject symbols imports).candidates call ↔
      (ofProject symbols imports).MethodNamed call.callee key :=
    fun key => mem_candidates_of_method hmethod hsome
  have hnodup : ((ofProject symbols imports).candidates call).Nodup :=
    (nodup_withName _ _).sublist (candidates_sublist ..)
  have hown : ∀ key, key ∈ ((ofProject symbols imports).candidates call).filter (·.file == call.file) ↔
      (ofProject symbols imports).MethodNamed call.callee key ∧ key.file = call.file := by
    intro key
    rw [List.mem_filter, hmem, beq_iff_eq]
  have hone := exists_eq_singleton_iff (hnodup.filter (·.file == call.file))
  simp only [hown] at hone
  rw [resolve_of_unknown_receiver hmethod hresolved]
  by_cases hsingle : ∃ own, ((ofProject symbols imports).candidates call).filter (·.file == call.file) = [own]
  · have hunique := hone.mp hsingle
    obtain ⟨own, hfilter⟩ := hsingle
    refine ⟨.onlyInFile, [own], congrArg _ (resolveByName_of_one hfilter), List.nodup_singleton own, fun key => ?_⟩
    rw [← hfilter, hown]
    exact and_congr_right fun _ => ⟨fun hfile _ => hfile, fun hfile => hfile hunique⟩
  · obtain ⟨found, hfound⟩ := hsome
    have hne := List.ne_nil_of_mem ((hmem found).mpr hfound)
    refine ⟨.byName, _, congrArg _ (resolveByName_of_many hne (not_exists.mp hsingle)), hnodup, fun key => ?_⟩
    rw [hmem]
    exact ⟨fun hnamed => ⟨hnamed, fun hunique => absurd (hone.mpr hunique) hsingle⟩, And.left⟩

/-- A method `len` of a type in a file. -/
def lenOf (owner file : String) : Symbol :=
  { name := "len", fullPath := owner ++ "::len", visibility := .inModule, file, span := ⟨1, 1, 1, 1⟩, kind := .method,
    owner := some owner }

/-- Two methods `len` in two files. -/
def lenCatalog : Catalog :=
  ofProject [lenOf "A" "src/a.rs", lenOf "B" "src/b.rs"] {}

/-- A call of `len` on some receiver in a file. -/
def lenCall (file : String) : CallSite :=
  { callee := "len", file, span := ⟨1, 1, 1, 1⟩, enclosing := "run", isMethodCall := true }

theorem method_call_targets_sample :
    ∃ rule targets, lenCatalog.resolve (lenCall "src/c.rs") = .ok (.linked rule targets) ∧
      ⟨"src/a.rs", "A::len"⟩ ∈ targets ∧ ⟨"src/b.rs", "B::len"⟩ ∈ targets := by
  have ha : lenCatalog.MethodNamed "len" ⟨"src/a.rs", "A::len"⟩ := by decide +kernel
  have hb : lenCatalog.MethodNamed "len" ⟨"src/b.rs", "B::len"⟩ := by decide +kernel
  obtain ⟨rule, targets, hresolve, -, hmem⟩ :=
    @method_call_targets (lenCall "src/c.rs") [lenOf "A" "src/a.rs", lenOf "B" "src/b.rs"] {} rfl rfl ⟨_, ha⟩
  -- No method is in the file of the caller.
  have hother : ∀ s ∈ lenCatalog.symbols, s.key.file ≠ "src/c.rs" := by decide +kernel
  have hnone : ¬ ∃! own, lenCatalog.MethodNamed "len" own ∧ own.file = "src/c.rs" := by
    rintro ⟨own, ⟨⟨s, hs, rfl, -⟩, hfile⟩, -⟩
    exact hother s hs hfile
  exact ⟨rule, targets, hresolve, (hmem _).mpr ⟨ha, fun hown => absurd hown hnone⟩,
    (hmem _).mpr ⟨hb, fun hown => absurd hown hnone⟩⟩

/-- In the file of `A`, the call of `len` does not lead to the method of `B`, whatever its receiver is. -/
theorem method_elsewhere_missed :
    lenCatalog.MethodNamed "len" ⟨"src/b.rs", "B::len"⟩ ∧ (lenCall "src/a.rs").isMethodCall = true ∧
      (lenCall "src/a.rs").resolved = none ∧
      lenCatalog.resolve (lenCall "src/a.rs") = .ok (.linked .onlyInFile [⟨"src/a.rs", "A::len"⟩]) := by
  decide +kernel

end Deadwood.Catalog
