/-
What a loaded configuration says.

Options stand at twenty places of a document: thirteen keys at the top level and seven in the
mapping `roots`.  An option is read from the first of its places that has a value, and is the
default if none has one (`Settled`).

* **`follows_of_ofEntries`** — every option is settled so, with `roots` before the top level;
* **`ofEntries_congr`** — nothing but the values at these places counts;
* **`recognised_eq_of_sameEntries`** — and these do not change with the order of the entries, nor
  with entries under other keys;
* **`analyzeWith_eq_tooFewWorkers_iff`** — an analysis refuses a number of workers only if it is
  less than one, and such a number is never loaded.
-/
import Deadwood.Analysis
import Deadwood.Proofs.Options
import Mathlib.Data.List.Pairwise

namespace Deadwood

theorem Format.ofName?_eq_some_iff {name : String} {format : Format} :
    ofName? name = some format ↔ format.name = name := by
  constructor
  · intro h
    rw [ofName?] at h
    have hname := List.find?_some h
    exact beq_iff_eq.mp hname
  · rintro rfl
    cases format <;> rfl

namespace Config

/-! ### What values are read as -/

/-- A list of texts: a single text stands for a list of one, and items of other types for their texts. -/
inductive ReadsTexts (depth : Nat) (value : Value) : List String → Prop where
  | one {s : String} (htext : value.content = .text s) : ReadsTexts depth value [s]
  | many {items : List Value} (hlist : value.content = .list items)
      (hshown : ∀ item ∈ items, item.Showable (depth - itemLevels)) :
    ReadsTexts depth value (items.map Value.display)

/-- A format by its name, without blanks around it and in whatever case. -/
def ReadsFormat (depth : Nat) (value : Value) (format : Format) : Prop :=
  value.Showable depth ∧ format.name = Text.lower (Text.trim value.display)

/-- A text, or nothing. -/
inductive ReadsText (depth : Nat) : Value → Option String → Prop where
  | nothing : ReadsText depth .null none
  | text {value : Value} (hnull : value ≠ .null) (hshown : value.Showable depth) :
    ReadsText depth value (some value.display)

/-- A positive number, or nothing. -/
inductive ReadsWorkers : Value → Option Int → Prop where
  | nothing : ReadsWorkers .null none
  | count {value : Value} {n : Int} (hwhole : Whole value n) (hpositive : 1 ≤ n) : ReadsWorkers value (some n)

/-- Whether a value counts as true. -/
def ReadsSwitch (value : Value) (on : Bool) : Prop :=
  on = value.isTruthy

variable {depth : Nat} {key : String} {value : Value}

theorem mapM_display_eq_ok_iff {items : List Value} {texts : List String} :
    items.mapM (display depth) = .ok texts ↔
      (∀ item ∈ items, item.Showable depth) ∧ texts = items.map Value.display := by
  induction items generalizing texts with
  | nil =>
    rw [List.mapM_nil, List.map_nil]
    constructor
    · intro h
      cases h
      simp
    · rintro ⟨-, rfl⟩
      rfl
  | cons item rest ih =>
    rw [List.mapM_cons, bind_eq_ok_iff]
    simp only [bind_eq_ok_iff, display_eq_ok_iff, ih, List.forall_mem_cons, List.map_cons]
    constructor
    · rintro ⟨text, ⟨hitem, rfl⟩, texts, ⟨hrest, rfl⟩, hcons⟩
      cases hcons
      exact ⟨⟨hitem, hrest⟩, rfl⟩
    · rintro ⟨⟨hitem, hrest⟩, rfl⟩
      exact ⟨_, ⟨hitem, rfl⟩, _, ⟨hrest, rfl⟩, rfl⟩

theorem decodeTexts_eq_ok_iff {texts : List String} :
    decodeTexts depth key value = .ok texts ↔ ReadsTexts depth value texts := by
  constructor
  · intro h
    rw [decodeTexts] at h
    split at h
    · next s htext =>
      cases h
      exact .one htext
    · next items hlist =>
      obtain ⟨hshown, rfl⟩ := mapM_display_eq_ok_iff.mp h
      exact .many hlist hshown
    · cases h
  · rintro (htext | ⟨hlist, hshown⟩)
    · rw [decodeTexts, htext]
    · rw [decodeTexts, hlist]
      exact mapM_display_eq_ok_iff.mpr ⟨hshown, rfl⟩

theorem decodeFormat_eq_ok_iff {format : Format} :
    decodeFormat depth value = .ok format ↔ ReadsFormat depth value format := by
  rw [decodeFormat, bind_eq_ok_iff, ReadsFormat, ← Format.ofName?_eq_some_iff]
  simp only [display_eq_ok_iff]
  constructor
  · rintro ⟨text, ⟨hshown, rfl⟩, hname⟩
    refine ⟨hshown, ?_⟩
    cases hfound : Format.ofName? (Text.lower (Text.trim value.display)) with
    | some found =>
      rw [hfound] at hname
      cases hname
      rfl
    | none =>
      rw [hfound] at hname
      cases hname
  · rintro ⟨hshown, hname⟩
    refine ⟨_, ⟨hshown, rfl⟩, ?_⟩
    rw [hname]
    rfl

theorem decodeText_eq_ok_iff {text : Option String} :
    decodeText depth value = .ok text ↔ ReadsText depth value text := by
  by_cases hnull : value = .null
  · subst hnull
    constructor
    · intro h
      cases h
      exact .nothing
    · rintro (_ | ⟨hnull, -⟩)
      · rfl
      · exact absurd rfl hnull
  · rw [decodeText.eq_2 depth value hnull]
    constructor
    · intro h
      cases hdisplay : display depth value with
      | error error =>
        rw [hdisplay] at h
        cases h
      | ok shown =>
        obtain ⟨hshown, rfl⟩ := display_eq_ok_iff.mp hdisplay
        rw [hdisplay] at h
        cases h
        exact .text hnull hshown
    · rintro (_ | ⟨-, hshown⟩)
      · exact absurd rfl hnull
      · rw [display_eq_ok_iff.mpr ⟨hshown, rfl⟩]
        rfl

theorem decodeWorkers_eq_ok_iff {workers : Option Int} :
    decodeWorkers value = .ok workers ↔ ReadsWorkers value workers := by
  by_cases hnull : value = .null
  · subst hnull
    constructor
    · intro h
      cases h
      exact .nothing
    · rintro (_ | ⟨hwhole, -⟩)
      · rfl
      · cases hwhole
  · rw [decodeWorkers.eq_2 value hnull, bind_eq_ok_iff]
    simp only [decodeInteger_eq_ok_iff]
    constructor
    · rintro ⟨n, hwhole, h⟩
      by_cases hfew : n < 1
      · rw [if_pos hfew] at h
        cases h
      · rw [if_neg hfew] at h
        cases h
        exact .count hwhole (by omega)
    · rintro (_ | ⟨hwhole, hpositive⟩)
      · exact absurd rfl hnull
      · refine ⟨_, hwhole, ?_⟩
        rw [if_neg (by omega)]
        rfl

/-! ### Which value decides -/

/-- The first value that is present is read; the default holds where there is none. -/
inductive Settled {α : Type} (Reads : Value → α → Prop) (default : α) : List (Option Value) → α → Prop where
  | default : Settled Reads default [] default
  | present {value : Value} {later : List (Option Value)} {result : α} (h : Reads value result) :
    Settled Reads default (some value :: later) result
  | absent {later : List (Option Value)} {result : α} (h : Settled Reads default later result) :
    Settled Reads default (none :: later) result

/-- What holds of the default and of everything that is read holds of the option. -/
theorem Settled.elim {α : Type} {Reads : Value → α → Prop} {default result : α} {places : List (Option Value)}
    {P : α → Prop} (h : Settled Reads default places result) (hdefault : P default)
    (hreads : ∀ value result, Reads value result → P result) : P result := by
  induction h with
  | default => exact hdefault
  | present hvalue => exact hreads _ _ hvalue
  | absent _ ih => exact ih

/-- If a value is read in one way only, an option is settled in one way only. -/
theorem Settled.unique {α : Type} {Reads : Value → α → Prop} {decode : Value → Except DecodeError α}
    (hdecode : ∀ {value result}, decode value = .ok result ↔ Reads value result) {default a b : α}
    {places : List (Option Value)} (ha : Settled Reads default places a) (hb : Settled Reads default places b) :
    a = b := by
  induction ha with
  | default =>
    cases hb
    rfl
  | present hreads =>
    cases hb with
    | present hreads' => exact Except.ok.inj ((hdecode.mpr hreads).symm.trans (hdecode.mpr hreads'))
  | absent _ ih =>
    cases hb with
    | absent hlater => exact ih hlater

/-- The entries of the mapping `roots`. Without such a mapping, or with another value in its place, there are none. -/
inductive HasRoots (entries : Entries) : Entries → Prop where
  | mapping {value : Value} {roots : Entries} (hvalue : Value.lookup? entries "roots" = some value)
      (hmap : value.content = .map roots) : HasRoots entries roots
  | other {value : Value} (hvalue : Value.lookup? entries "roots" = some value)
      (hmap : ∀ roots, value.content ≠ .map roots) : HasRoots entries []
  | absent (hvalue : Value.lookup? entries "roots" = none) : HasRoots entries []

theorem hasRoots_rootEntries (entries : Entries) : HasRoots entries (rootEntries entries) := by
  rw [rootEntries]
  cases hvalue : Value.lookup? entries "roots" with
  | none => exact .absent hvalue
  | some value =>
    rw [Option.map_some]
    split
    · next roots hmap => exact .mapping hvalue (Option.some.inj hmap)
    · next hother => exact .other hvalue fun roots hmap => hother roots (congrArg some hmap)

theorem HasRoots.rootEntries_eq {entries roots : Entries} (h : HasRoots entries roots) :
    rootEntries entries = roots := by
  rw [rootEntries]
  cases h with
  | mapping hvalue hmap => rw [hvalue, Option.map_some, hmap]
  | other hvalue hmap =>
    rw [hvalue, Option.map_some]
    split
    · next roots hroots => exact absurd (Option.some.inj hroots) (hmap roots)
    · rfl
  | absent hvalue => rw [hvalue, Option.map_none]

/-- Every option is settled by the values at its places, in the document and in its mapping `roots`. -/
structure Follows (depth : Nat) (entries roots : Entries) (config : Config) : Prop where
  visibilities : Settled (ReadsTexts depth) ["public"] [Value.lookup? roots "visibilities",
    Value.lookup? roots "root_visibilities", Value.lookup? entries "root_visibilities"] config.visibilities
  entryNames : Settled (ReadsTexts depth) ["main"]
    [Value.lookup? roots "entry_names", Value.lookup? entries "entry_names"] config.entryNames
  keepAlive : Settled (ReadsTexts depth) []
    [Value.lookup? roots "keep_alive", Value.lookup? entries "keep_alive"] config.keepAlive
  includeTests : Settled ReadsSwitch true
    [Value.lookup? roots "include_tests", Value.lookup? entries "include_tests"] config.includeTests
  includeForeign : Settled ReadsSwitch true
    [Value.lookup? roots "include_ffi", Value.lookup? entries "include_ffi"] config.includeForeign
  includeTraitImpls : Settled ReadsSwitch true
    [Value.lookup? roots "include_trait_impls", Value.lookup? entries "include_trait_impls"] config.includeTraitImpls
  ignored : Settled (ReadsTexts depth) [] [Value.lookup? entries "ignore"] config.ignored
  excluded : Settled (ReadsTexts depth) [] [Value.lookup? entries "exclude"] config.excluded
  paths : Settled (ReadsTexts depth) ["."] [Value.lookup? entries "paths"] config.paths
  format : Settled (ReadsFormat depth) .report [Value.lookup? entries "format"] config.format
  output : Settled (ReadsText depth) none [Value.lookup? entries "output"] config.output
  strict : Settled ReadsSwitch false [Value.lookup? entries "strict"] config.strict
  workers : Settled ReadsWorkers none [Value.lookup? entries "workers"] config.workers
  source : config.source = none

variable {entries roots : Entries} {config : Config}

/-- An option that is read over an earlier reading has one more place, before the others. -/
theorem settled_option {α : Type} {decode : Value → Except DecodeError α} {Reads : Value → α → Prop}
    (hdecode : ∀ {value result}, decode value = .ok result → Reads value result) {default earlier result : α}
    {places : List (Option Value)} (hearlier : Settled Reads default places earlier)
    (h : option entries key earlier decode = .ok result) :
    Settled Reads default (Value.lookup? entries key :: places) result := by
  rw [option] at h
  cases hvalue : Value.lookup? entries key with
  | none =>
    rw [hvalue] at h
    cases h
    exact .absent hearlier
  | some value =>
    rw [hvalue] at h
    exact .present (hdecode h)

theorem settled_switch {default earlier : Bool} {places : List (Option Value)}
    (hearlier : Settled ReadsSwitch default places earlier) :
    Settled ReadsSwitch default (Value.lookup? entries key :: places) (switch entries key earlier) := by
  rw [switch]
  cases Value.lookup? entries key with
  | none => exact .absent hearlier
  | some value => exact .present rfl

theorem follows_of_ofEntries (h : ofEntries depth entries = .ok config) :
    Follows depth entries (rootEntries entries) config := by
  unfold ofEntries at h
  simp only [bind_eq_ok_iff] at h
  obtain ⟨paths, hpaths, excluded, hexcluded, keepTop, hkeepTop, ignored, hignored, visibleTop, hvisibleTop, namesTop,
    hnamesTop, format, hformat, output, houtput, workers, hworkers, visibleOld, hvisibleOld, names, hnames, keep, hkeep,
    visible, hvisible, hconfig⟩ := h
  cases hconfig
  -- A reading in `roots` has the one at the top level as its default, so its place comes before.
  have htexts : ∀ {key value texts}, decodeTexts depth key value = .ok texts → ReadsTexts depth value texts :=
    decodeTexts_eq_ok_iff.mp
  exact
    { visibilities := settled_option htexts
        (settled_option htexts (settled_option htexts .default hvisibleTop) hvisibleOld) hvisible
      entryNames := settled_option htexts (settled_option htexts .default hnamesTop) hnames
      keepAlive := settled_option htexts (settled_option htexts .default hkeepTop) hkeep
      includeTests := settled_switch (settled_switch .default)
      includeForeign := settled_switch (settled_switch .default)
      includeTraitImpls := settled_switch (settled_switch .default)
      ignored := settled_option htexts .default hignored
      excluded := settled_option htexts .default hexcluded
      paths := settled_option htexts .default hpaths
      format := settled_option decodeFormat_eq_ok_iff.mp .default hformat
      output := settled_option decodeText_eq_ok_iff.mp .default houtput
      strict := settled_switch .default
      workers := settled_option decodeWorkers_eq_ok_iff.mp .default hworkers
      source := rfl }

/-- The values at all places determine the configuration. -/
theorem Follows.unique {other : Config} (h : Follows depth entries roots config)
    (hother : Follows depth entries roots other) : other = config := by
  have htexts : ∀ {value texts}, decodeTexts depth "" value = .ok texts ↔ ReadsTexts depth value texts :=
    decodeTexts_eq_ok_iff
  have hswitch : ∀ {value on},
      (Except.ok value.isTruthy : Except DecodeError Bool) = .ok on ↔ ReadsSwitch value on := by
    intro value on
    rw [Except.ok.injEq, ReadsSwitch, eq_comm]
  have hsource : other.source = config.source := hother.source.trans h.source.symm
  have hvisibilities := hother.visibilities.unique htexts h.visibilities
  have hentryNames := hother.entryNames.unique htexts h.entryNames
  have hkeepAlive := hother.keepAlive.unique htexts h.keepAlive
  have hincludeTests := hother.includeTests.unique hswitch h.includeTests
  have hincludeForeign := hother.includeForeign.unique hswitch h.includeForeign
  have hincludeTraitImpls := hother.includeTraitImpls.unique hswitch h.includeTraitImpls
  have hignored := hother.ignored.unique htexts h.ignored
  have hexcluded := hother.excluded.unique htexts h.excluded
  have hpaths := hother.paths.unique htexts h.paths
  have hformat := hother.format.unique decodeFormat_eq_ok_iff h.format
  have houtput := hother.output.unique decodeText_eq_ok_iff h.output
  have hstrict := hother.strict.unique hswitch h.strict
  have hworkers := hother.workers.unique decodeWorkers_eq_ok_iff h.workers
  cases config
  cases other
  rw [mk.injEq]
  exact ⟨hpaths, hexcluded, hformat, houtput, hstrict, hworkers, hkeepAlive, hignored, hvisibilities, hentryNames,
    hincludeTests, hincludeForeign, hincludeTraitImpls, hsource⟩

theorem Follows.workers_positive (h : Follows depth entries roots config) {count : Int}
    (hcount : config.workers = some count) : 1 ≤ count := by
  refine h.workers.elim (P := fun workers => ∀ count, workers = some count → 1 ≤ count) ?_ ?_ count hcount
  · intro count hnone
    cases hnone
  · rintro value workers (_ | ⟨hwhole, hpositive⟩) count hread
    · cases hread
    · cases hread
      exact hpositive

/-! ### What does not count -/

/-- The keys of options at the top level. -/
def topKeys : List String :=
  ["paths", "exclude", "keep_alive", "ignore", "root_visibilities", "entry_names", "format", "output", "workers",
    "strict", "include_tests", "include_ffi", "include_trait_impls"]

/-- The keys of options in the mapping `roots`. -/
def rootKeys : List String :=
  ["visibilities", "root_visibilities", "entry_names", "keep_alive", "include_tests", "include_ffi",
    "include_trait_impls"]

/-- The values at all places of options, in a document and in its mapping `roots`. -/
def recognised (entries roots : Entries) : List (Option Value) :=
  topKeys.map (Value.lookup? entries) ++ rootKeys.map (Value.lookup? roots)

theorem ofEntries_congr {others : Entries}
    (h : recognised others (rootEntries others) = recognised entries (rootEntries entries)) :
    ofEntries depth others = ofEntries depth entries := by
  simp only [recognised, topKeys, rootKeys, List.map_cons, List.map_nil, List.cons_append, List.nil_append,
    List.cons.injEq, and_true] at h
  obtain ⟨hpaths, hexclude, hkeep, hignore, hvisible, hnames, hformat, houtput, hworkers, hstrict, htests, hffi,
    htraits, hrootsVisible, hrootsOld, hrootsNames, hrootsKeep, hrootsTests, hrootsFfi, hrootsTraits⟩ := h
  -- Each look-up that reading makes is at one of these places.
  simp only [ofEntries, texts, option, switch, hpaths, hexclude, hkeep, hignore, hvisible, hnames, hformat, houtput,
    hworkers, hstrict, htests, hffi, htraits, hrootsVisible, hrootsOld, hrootsNames, hrootsKeep, hrootsTests, hrootsFfi,
    hrootsTraits]

theorem sameKey_text_iff : Value.sameKey value (.text key) = true ↔ value = .text key := by
  cases value <;> simp [Value.sameKey, Value.sameKey.number?]

/-- No text is the key of two entries. -/
def EachOnce (entries : Entries) : Prop :=
  entries.Pairwise fun a b => ∀ key, a.1 = .text key → b.1 ≠ .text key

/-- Whether an entry has one of some keys. -/
def hasKeyIn (keys : List String) (entry : Value × Value) : Bool :=
  keys.any fun key => Value.sameKey entry.1 (.text key)

/-- Two mappings have the same entries under some keys, in whatever order. -/
def SameEntries (keys : List String) (a b : Entries) : Prop :=
  (a.filter (hasKeyIn keys)).Perm (b.filter (hasKeyIn keys))

theorem lookup?_filter {keys : List String} (hkey : key ∈ keys) (entries : Entries) :
    Value.lookup? (entries.filter (hasKeyIn keys)) key = Value.lookup? entries key := by
  have htest : ∀ entry : Value × Value, Value.sameKey entry.1 (.text key) = true → hasKeyIn keys entry = true :=
    fun entry hentry => List.any_eq_true.mpr ⟨key, hkey, hentry⟩
  have hfind : (entries.filter (hasKeyIn keys)).find? (fun entry => Value.sameKey entry.1 (.text key)) =
      entries.find? fun entry => Value.sameKey entry.1 (.text key) := by
    rw [List.find?_filter]
    congr 1
    funext entry
    cases hentry : Value.sameKey entry.1 (.text key) with
    | false => simp
    | true => simp [htest entry hentry]
  rw [Value.lookup?, Value.lookup?, hfind]

/-- If a test holds of one item at most, it finds that item in whatever order the items are. -/
theorem find?_eq_of_perm {α : Type} {test : α → Bool} {items others : List α} (hperm : items.Perm others)
    (hunique : ∀ x ∈ items, ∀ y ∈ items, test x = true → test y = true → x = y) :
    items.find? test = others.find? test := by
  cases hfind : items.find? test with
  | none =>
    have hnone := List.find?_eq_none.mp hfind
    exact (List.find?_eq_none.mpr fun x hx => hnone x (hperm.mem_iff.mpr hx)).symm
  | some x =>
    cases hother : others.find? test with
    | none =>
      have hx := List.find?_eq_none.mp hother x (hperm.mem_iff.mp (List.mem_of_find?_eq_some hfind))
      exact absurd (List.find?_some hfind) hx
    | some y =>
      have hy := hperm.mem_iff.mpr (List.mem_of_find?_eq_some hother)
      rw [hunique x (List.mem_of_find?_eq_some hfind) y hy (List.find?_some hfind) (List.find?_some hother)]

theorem EachOnce.eq_of_sameKey (h : EachOnce entries) {a b : Value × Value} (ha : a ∈ entries) (hb : b ∈ entries)
    (hakey : Value.sameKey a.1 (.text key) = true) (hbkey : Value.sameKey b.1 (.text key) = true) : a = b := by
  have hsymm : Std.Symm fun a b : Value × Value => ∀ key, a.1 = .text key → b.1 ≠ .text key :=
    ⟨fun a b hab key hb ha => hab key ha hb⟩
  by_contra hne
  exact h.forall ha hb hne key (sameKey_text_iff.mp hakey) (sameKey_text_iff.mp hbkey)

/-- What is found under a key is what was entered under it. -/
theorem EachOnce.lookup?_eq_some_iff (h : EachOnce entries) :
    Value.lookup? entries key = some value ↔ (.text key, value) ∈ entries := by
  rw [Value.lookup?, Option.map_eq_some_iff]
  constructor
  · rintro ⟨entry, hfind, rfl⟩
    have hsame := List.find?_some hfind
    have hkey : entry.1 = .text key := sameKey_text_iff.mp hsame
    rw [← hkey]
    exact List.mem_of_find?_eq_some hfind
  · intro hmem
    have hkey : Value.sameKey (Value.text key) (.text key) = true := sameKey_text_iff.mpr rfl
    cases hfind : entries.find? fun entry => Value.sameKey entry.1 (.text key) with
    | none => exact absurd hkey (List.find?_eq_none.mp hfind _ hmem)
    | some entry =>
      have hentry := List.mem_of_find?_eq_some hfind
      have hsame := List.find?_some hfind
      exact ⟨entry, rfl, congrArg Prod.snd (h.eq_of_sameKey hentry hmem hsame hkey)⟩

theorem lookup?_eq_of_sameEntries {keys : List String} {others : Entries} (honce : EachOnce entries)
    (hsame : SameEntries keys entries others) (hkey : key ∈ keys) :
    Value.lookup? others key = Value.lookup? entries key := by
  rw [← lookup?_filter hkey others, ← lookup?_filter hkey entries, Value.lookup?, Value.lookup?]
  rw [find?_eq_of_perm hsame fun a ha b hb => ?_]
  exact honce.eq_of_sameKey (List.mem_filter.mp ha).1 (List.mem_filter.mp hb).1

theorem recognised_eq_of_sameEntries {others otherRoots : Entries} (honce : EachOnce entries)
    (htop : SameEntries topKeys entries others) (hrootsOnce : EachOnce roots)
    (hroots : SameEntries rootKeys roots otherRoots) : recognised others otherRoots = recognised entries roots := by
  have htopValues : topKeys.map (Value.lookup? others) = topKeys.map (Value.lookup? entries) :=
    List.map_congr_left fun key hkey => lookup?_eq_of_sameEntries honce htop hkey
  have hrootValues : rootKeys.map (Value.lookup? otherRoots) = rootKeys.map (Value.lookup? roots) :=
    List.map_congr_left fun key hkey => lookup?_eq_of_sameEntries hrootsOnce hroots hkey
  rw [recognised, recognised, htopValues, hrootValues]

end Config

/-! ### Workers -/

theorem analyzeWith_eq_tooFewWorkers_iff {parse : Syntax.Source → Syntax.Node}
    {sources : OrderedMap String Syntax.Source} {policy : Policy} {strict : Bool} {workers : Option Int} {count : Int} :
    analyzeWith parse sources policy strict workers = .error (.tooFewWorkers count) ↔
      workers = some count ∧ count < 1 := by
  have hcheck : checkWorkers workers = .error (.tooFewWorkers count) ↔ workers = some count ∧ count < 1 := by
    cases workers with
    | none => simp [checkWorkers]
    | some workers =>
      rw [checkWorkers]
      by_cases hfew : workers < 1
      · rw [if_pos hfew]
        constructor
        · intro h
          cases h
          exact ⟨rfl, hfew⟩
        · rintro ⟨h, -⟩
          cases h
          rfl
      · rw [if_neg hfew]
        constructor
        · intro h
          cases h
        · rintro ⟨h, hcount⟩
          cases h
          exact absurd hcount hfew
  rw [analyzeWith, bind_eq_error_iff, hcheck]
  refine ⟨fun h => h.resolve_right ?_, Or.inl⟩
  -- What comes after the check fails for other reasons.
  rintro ⟨-, -, hrest⟩
  rw [bind_eq_error_iff] at hrest
  obtain hread | ⟨facts, -, hgraph⟩ := hrest
  · obtain ⟨cause, -, hcause⟩ := mapError_eq_error_iff.mp hread
    cases hcause
  · obtain ⟨cause, -, hcause⟩ := mapError_eq_error_iff.mp hgraph
    cases hcause

namespace Config

variable {config : Config}

/-- **A loaded configuration is valid and follows one precedence.**  It comes from a mapping, and no analysis refuses
its number of workers.  Every option of it is read from the first of its places that has a value, which leaves no
choice.  Whatever other document has the same values at these places gives the same configuration, so it depends
neither on the order of entries nor on other keys. -/
theorem loaded_config_settled {document : Value} (h : ofValue depth document = .ok config) :
    (config.format.name ∈ ["plain", "json", "report"] ∧ (∀ count, config.workers = some count → 1 ≤ count) ∧
      ∀ parse sources policy strict count,
        analyzeWith parse sources policy strict config.workers ≠ .error (.tooFewWorkers count)) ∧
    ∃ entries roots, document.content = .map entries ∧ HasRoots entries roots ∧
      (EachOnce entries → ∀ key value, Value.lookup? entries key = some value ↔ (.text key, value) ∈ entries) ∧
      (∀ other, Follows depth entries roots other ↔ other = config) ∧
      ∀ other others otherRoots, other.content = .map others → HasRoots others otherRoots →
        (recognised others otherRoots = recognised entries roots → ofValue depth other = .ok config) ∧
        (EachOnce entries → SameEntries topKeys entries others → EachOnce roots →
          SameEntries rootKeys roots otherRoots → ofValue depth other = .ok config) := by
  obtain ⟨entries, hmap, hentries⟩ := ofValue_eq_ok_iff.mp h
  have hfollows := follows_of_ofEntries hentries
  refine ⟨⟨?_, fun count => hfollows.workers_positive, ?_⟩, entries, rootEntries entries, hmap,
    hasRoots_rootEntries entries, fun honce key value => honce.lookup?_eq_some_iff, fun other => ?_, ?_⟩
  · cases config.format <;> decide
  · intro parse sources policy strict count hfew
    obtain ⟨hcount, hless⟩ := analyzeWith_eq_tooFewWorkers_iff.mp hfew
    have hpositive := hfollows.workers_positive hcount
    omega
  · constructor
    · exact hfollows.unique
    · rintro rfl
      exact hfollows
  · intro other others otherRoots hother hroots
    obtain rfl := hroots.rootEntries_eq
    have hsame : recognised others (rootEntries others) = recognised entries (rootEntries entries) →
        ofValue depth other = .ok config := by
      intro hrecognised
      exact ofValue_eq_ok_iff.mpr ⟨others, hother, (ofEntries_congr hrecognised).trans hentries⟩
    refine ⟨hsame, fun honce htop hrootsOnce hrootsSame => ?_⟩
    exact hsame (recognised_eq_of_sameEntries honce htop hrootsOnce hrootsSame)

/-- A mapping `roots` under three of the keys that may stand in it. -/
def layeredRoots : Entries :=
  [(.text "root_visibilities", .list []), (.text "visibilities", .list [.text "public", .bool true]),
    (.text "include_ffi", .int 0)]

/-- Options at both levels. -/
def layeredEntries : Entries :=
  [(.text "root_visibilities", .text "private"), (.text "workers", .text " 4 "), (.text "include_ffi", .bool true),
    (.text "format", .text " Json"), (.text "roots", .map layeredRoots)]

/-- What they give. -/
def layeredConfig : Config :=
  { format := .json, workers := some 4, visibilities := ["public", "True"], includeForeign := false }

theorem loaded_config_settled_layered :
    ofValue 100 (.map layeredEntries) = .ok layeredConfig ∧ Follows 100 layeredEntries layeredRoots layeredConfig ∧
      ofValue 100 (.map ((.text "colour", .text "red") :: layeredEntries.reverse)) = .ok layeredConfig := by
  have hload : ofValue 100 (.map layeredEntries) = .ok layeredConfig := by rfl
  have hroots : HasRoots layeredEntries layeredRoots := .mapping rfl rfl
  have hotherRoots : HasRoots ((.text "colour", .text "red") :: layeredEntries.reverse) layeredRoots := .mapping rfl rfl
  obtain ⟨-, entries, roots, hmap, hfound, -, hfollows, hothers⟩ := loaded_config_settled hload
  cases hmap
  obtain rfl : layeredRoots = roots := hroots.rootEntries_eq.symm.trans hfound.rootEntries_eq
  refine ⟨hload, (hfollows layeredConfig).mpr rfl, (hothers _ _ _ rfl hotherRoots).2 ?_ ?_ ?_ (.refl _)⟩
  · simp [EachOnce, layeredEntries]
  · have hother : hasKeyIn topKeys (.text "colour", .text "red") = false := by decide
    rw [SameEntries, List.filter_cons, hother, if_neg Bool.false_ne_true, List.filter_reverse]
    exact (List.reverse_perm _).symm
  · simp [EachOnce, layeredRoots]

end Config

end Deadwood
