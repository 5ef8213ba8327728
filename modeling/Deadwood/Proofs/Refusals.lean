/-
How a configuration file is refused.

However documents are decoded, a file that holds one gives a policy or is refused, with words
for what is wrong (`Refused`), unless one of five things escapes the checks (`Escapes`): an
infinite number of workers, an integer that is too long to be shown, a value that is nested too
deeply to be, and a manifest in which `package` or its metadata is no table.

* **`read_of_holds`** — YAML, TOML and manifests differ only in the part of the document
  that the options are read from;
* **`policy_eq_error_iff`** — a policy fails for the first name that no visibility has;
* **`loadPolicy_eq_error_iff`** — every failure is an escape or a refusal, and which;
* **`config_refused_unless_escaping`** — hence there are no other failures than refusals
  exactly where nothing escapes.
-/
import Deadwood.Config.Load
import Deadwood.Proofs.Options

namespace Deadwood

theorem Visibility.ofNameOrLabel?_eq_none_iff {text : String} :
    ofNameOrLabel? text = none ↔ ∀ v : Visibility, v.name ≠ text ∧ v.label ≠ text := by
  simp [ofNameOrLabel?, mem_all]

namespace Config

/-! ### Documents in files -/

/-- A file holds a document, as the decoders of a reader say. -/
inductive Holds (reader : Reader) (tree : Tree) (path : Path) : Value → Prop where
  | yaml {bytes : List UInt8} {document : Value} (hfile : tree.probe path = .ok (some (.file bytes)))
      (hsuffix : Text.lower path.suffix = ".yaml" ∨ Text.lower path.suffix = ".yml")
      (hparse : reader.yaml bytes = .ok document) : Holds reader tree path document
  | toml {bytes : List UInt8} {text : String} {entries : Entries} (hfile : tree.probe path = .ok (some (.file bytes)))
      (hsuffix : Text.lower path.suffix = ".toml") (htext : Utf8.decode? bytes = some text)
      (hparse : reader.toml text = .ok entries) : Holds reader tree path (.map entries)

/-- The value of a key of a table. A missing one counts as an empty table. -/
inductive Subtable (key : String) : Value → Value → Prop where
  | present {entries : Entries} {value : Value} (h : Value.lookup? entries key = some value) :
    Subtable key (.map entries) value
  | absent {entries : Entries} (h : Value.lookup? entries key = none) : Subtable key (.map entries) (.map [])

/-- The part of a document that the options are read from. -/
inductive Part (path : Path) (document : Value) : Value → Prop where
  | whole (hname : path.name ≠ manifestName) (htruthy : document.isTruthy = true) : Part path document document
  | empty (hname : path.name ≠ manifestName) (hfalsy : document.isTruthy = false) : Part path document (.map [])
  | manifest {package metadata part : Value} (hname : path.name = manifestName)
      (hpackage : Subtable "package" document package) (hmetadata : Subtable "metadata" package metadata)
      (hpart : Subtable manifestKey metadata part) : Part path document part

/-- What is wrong with a file escapes the checks. -/
inductive Escapes (depth : Nat) (path : Path) (document : Value) : LoadError → Prop where
  | infiniteWorkers {part : Value} {entries : Entries} (hpart : Part path document part)
      (hmap : part.content = .map entries) (hfirst : FirstFails depth entries .infiniteWorkers) :
    Escapes depth path document .infiniteWorkers
  | unshowable {part : Value} {entries : Entries} {fault : Value.ShowFault} (hpart : Part path document part)
      (hmap : part.content = .map entries) (hfirst : FirstFails depth entries (.unshowable fault)) :
    Escapes depth path document (.unshowable fault)
  | package {package : Value} (hname : path.name = manifestName) (hpackage : Subtable "package" document package)
      (htable : ∀ entries, package ≠ .map entries) : Escapes depth path document .notTable
  | metadata {package metadata : Value} (hname : path.name = manifestName)
      (hpackage : Subtable "package" document package) (hmetadata : Subtable "metadata" package metadata)
      (htable : ∀ entries, metadata ≠ .map entries) : Escapes depth path document .notTable

/-- The name or the spelling of a visibility, with blanks around it. -/
def NamesVisibility (name : String) : Prop :=
  ∃ v : Visibility, v.name = Text.trim name ∨ v.label = Text.trim name

/-- What a file is refused for. -/
inductive Refused (depth : Nat) (path : Path) (document : Value) : ConfigFault → Prop where
  | notMapping {part : Value} (hpart : Part path document part) (hmap : ∀ entries, part.content ≠ .map entries) :
    Refused depth path document .notMapping
  | option {part : Value} {entries : Entries} {fault : ConfigFault} (hpart : Part path document part)
      (hmap : part.content = .map entries) (hfirst : FirstFails depth entries (.fault fault)) :
    Refused depth path document fault
  | visibility {part : Value} {entries : Entries} {config : Config} {before after : List String} {name : String}
      (hpart : Part path document part) (hmap : part.content = .map entries)
      (hconfig : ofEntries depth entries = .ok config)
      (hnames : config.visibilities = before ++ name :: after) (hbefore : ∀ earlier ∈ before, NamesVisibility earlier)
      (hname : ¬ NamesVisibility name) : Refused depth path document (.unknownVisibility name)

/-! ### The part with the options -/

variable {reader : Reader} {depth : Nat} {tree : Tree} {path : Path} {document part : Value}

theorem tableAt_eq_ok_iff {key : String} {table : Value} : tableAt key table = .ok part ↔ Subtable key table part := by
  constructor
  · intro h
    cases table with
    | map entries =>
      cases h
      cases hlookup : Value.lookup? entries key with
      | some value => exact .present hlookup
      | none => exact .absent hlookup
    | _ => cases h
  · rintro (hlookup | hlookup)
    · rw [tableAt, hlookup]
      rfl
    · rw [tableAt, hlookup]
      rfl

theorem tableAt_eq_error_iff {key : String} {table : Value} {error : LoadError} :
    tableAt key table = .error error ↔ error = .notTable ∧ ∀ entries, table ≠ .map entries := by
  cases table <;> simp [tableAt, eq_comm]

/-- The part of a document with the options, or why there is none. -/
def part? (path : Path) (document : Value) : Except LoadError Value :=
  if path.name = manifestName then do tableAt manifestKey (← metadata document)
  else .ok (if document.isTruthy then document else .map [])

theorem part?_eq_ok_iff : part? path document = .ok part ↔ Part path document part := by
  rw [part?]
  by_cases hname : path.name = manifestName
  · rw [if_pos hname, metadata]
    simp only [bind_eq_ok_iff, tableAt_eq_ok_iff]
    constructor
    · rintro ⟨metadata, ⟨package, hpackage, hmetadata⟩, hpart⟩
      exact .manifest hname hpackage hmetadata hpart
    · rintro (_ | _ | ⟨-, hpackage, hmetadata, hpart⟩)
      · contradiction
      · contradiction
      · exact ⟨_, ⟨_, hpackage, hmetadata⟩, hpart⟩
  · rw [if_neg hname]
    constructor
    · intro h
      cases h
      split
      · next htruthy => exact .whole hname htruthy
      · next hfalsy => exact .empty hname (by simpa using hfalsy)
    · rintro (⟨-, htruthy⟩ | ⟨-, hfalsy⟩ | hmanifest)
      · rw [if_pos htruthy]
      · rw [if_neg (by simp [hfalsy])]
      · exact absurd hmanifest hname

theorem part?_eq_error_iff (depth : Nat) {error : LoadError}
    (hmap : path.name = manifestName → ∃ entries, document = .map entries) : part? path document = .error error ↔
      error = .notTable ∧ Escapes depth path document .notTable := by
  rw [part?]
  by_cases hname : path.name = manifestName
  · obtain ⟨entries, rfl⟩ := hmap hname
    rw [if_pos hname, metadata]
    simp only [bind_eq_error_iff, bind_eq_ok_iff, tableAt_eq_error_iff, tableAt_eq_ok_iff]
    constructor
    · rintro ((⟨-, htable⟩ | ⟨package, hpackage, rfl, htable⟩) |
        ⟨metadata, ⟨package, hpackage, hmetadata⟩, rfl, htable⟩)
      · exact absurd rfl (htable entries)
      · exact ⟨rfl, .package hname hpackage htable⟩
      · exact ⟨rfl, .metadata hname hpackage hmetadata htable⟩
    · rintro ⟨rfl, _ | _ | ⟨-, hpackage, htable⟩ | ⟨-, hpackage, hmetadata, htable⟩⟩
      · exact .inl (.inr ⟨_, hpackage, rfl, htable⟩)
      · exact .inr ⟨_, ⟨_, hpackage, hmetadata⟩, rfl, htable⟩
  · rw [if_neg hname]
    constructor
    · intro h
      cases h
    · rintro ⟨-, _ | _ | hmanifest | hmanifest⟩
      · exact absurd hmanifest hname
      · exact absurd hmanifest hname

theorem lower_suffix_of_manifest (hname : path.name = manifestName) : Text.lower path.suffix = ".toml" := by
  rw [Path.suffix, hname]
  decide

theorem Holds.map_of_manifest (h : Holds reader tree path document) (hname : path.name = manifestName) :
    ∃ entries, document = .map entries := by
  have hsuffix := lower_suffix_of_manifest hname
  cases h with
  | yaml hfile hyaml hparse =>
    rw [hsuffix] at hyaml
    exact absurd hyaml (by decide)
  | toml hfile hsuffix htext hparse => exact ⟨_, rfl⟩

/-! ### Reading a file -/

/-- A configuration with the file that it comes from. -/
def fromFile (path : Path) (config : Config) : Config :=
  { config with source := some path }

theorem probe_of_file {bytes : List UInt8} (hfile : tree.probe path = .ok (some (.file bytes))) :
    probe tree path = .ok (some (.file bytes)) := by
  rw [probe, hfile]
  rfl

theorem read_yaml {bytes : List UInt8} (hfile : tree.probe path = .ok (some (.file bytes)))
    (hsuffix : Text.lower path.suffix = ".yaml" ∨ Text.lower path.suffix = ".yml") :
    read reader tree path = (ofYaml reader path bytes).map (fromFile path) := by
  have hyaml : (Text.lower path.suffix == ".yaml" || Text.lower path.suffix == ".yml") = true := by
    simpa using hsuffix
  rw [read, probe_of_file hfile]
  simp only [bind, Except.bind, bytesOf, hyaml, if_true]
  cases ofYaml reader path bytes <;> rfl

theorem read_toml {bytes : List UInt8} (hfile : tree.probe path = .ok (some (.file bytes)))
    (hsuffix : Text.lower path.suffix = ".toml") :
    read reader tree path = (ofToml reader path bytes).map (fromFile path) := by
  rw [read, probe_of_file hfile]
  simp only [bind, Except.bind, bytesOf, hsuffix]
  cases ofToml reader path bytes <;> rfl

theorem ofYaml_of_parse {bytes : List UInt8} (hname : path.name ≠ manifestName)
    (hparse : reader.yaml bytes = .ok document) :
    ofYaml reader path bytes = part? path document >>= decodeAt reader.depth path := by
  rw [part?, if_neg hname]
  unfold ofYaml
  rw [hparse]
  cases htruthy : document.isTruthy <;> simp only [htruthy] <;> rfl

theorem ofToml_of_parse {bytes : List UInt8} {text : String} {entries : Entries}
    (htext : Utf8.decode? bytes = some text) (hparse : reader.toml text = .ok entries) :
    ofToml reader path bytes = part? path (.map entries) >>= decodeAt reader.depth path := by
  have hutf8 : decodeUtf8 bytes = .ok text := by rw [decodeUtf8, htext]
  -- An empty table is the part that an empty document has.
  have hwhole : (if (Value.map entries).isTruthy then Value.map entries else .map []) = .map entries := by
    cases entries <;> rfl
  rw [part?, hwhole]
  unfold ofToml
  simp only [hutf8, bind, Except.bind, hparse]
  by_cases hname : path.name = manifestName
  · simp only [hname, beq_self_eq_true, if_true]
    cases metadata (.map entries) with
    | error error => rfl
    | ok found => cases tableAt manifestKey found <;> rfl
  · simp [hname]

theorem read_of_holds (h : Holds reader tree path document) :
    read reader tree path = (part? path document >>= decodeAt reader.depth path).map (fromFile path) := by
  cases h with
  | yaml hfile hsuffix hparse =>
    have hname : path.name ≠ manifestName := by
      intro hname
      rw [lower_suffix_of_manifest hname] at hsuffix
      exact absurd hsuffix (by decide)
    rw [read_yaml hfile hsuffix, ofYaml_of_parse hname hparse]
  | toml hfile hsuffix htext hparse => rw [read_toml hfile hsuffix, ofToml_of_parse htext hparse]

/-- How a file fails whose options cannot be read. -/
def loadError (path : Path) : DecodeError → LoadError
  | .fault fault => .refused ⟨path.text, fault⟩
  | .infiniteWorkers => .infiniteWorkers
  | .unshowable fault => .unshowable fault

theorem decodeAt_eq (depth : Nat) (path : Path) (part : Value) :
    decodeAt depth path part = (ofValue depth part).mapError (loadError path) := by
  rw [decodeAt]
  cases ofValue depth part with
  | ok config => rfl
  | error error => cases error <;> rfl

theorem ofValue_eq_error_iff {error : DecodeError} : ofValue depth part = .error error ↔
    (error = .fault .notMapping ∧ ∀ entries, part.content ≠ .map entries) ∨
    ∃ entries, part.content = .map entries ∧ FirstFails depth entries error := by
  simp only [ofValue, ← ofEntries_eq_error_iff]
  cases part.content <;> simp [eq_comm]

/-! ### The policy of a file -/

theorem policy_eq_error_iff {config : Config} {error : ConfigError} : config.policy = .error error ↔
    ∃ before name after, config.visibilities = before ++ name :: after ∧
      (∀ earlier ∈ before, NamesVisibility earlier) ∧ ¬ NamesVisibility name ∧
      error = ⟨config.place, .unknownVisibility name⟩ := by
  have hpolicy : config.policy = .error error ↔ config.visibilityList = .error error := by
    rw [policy]
    cases config.visibilityList <;> simp [bind, Except.bind, pure, Except.pure]
  have hnone : ∀ {name}, Visibility.ofNameOrLabel? (Text.trim name) = none ↔ ¬ NamesVisibility name := by
    simp [Visibility.ofNameOrLabel?_eq_none_iff, NamesVisibility]
  rw [hpolicy, visibilityList, mapM_eq_error_iff]
  constructor
  · rintro ⟨before, name, after, hsplit, hbefore, hname⟩
    refine ⟨before, name, after, hsplit, fun earlier hearlier => ?_, ?_⟩
    · obtain ⟨v, hv⟩ := hbefore earlier hearlier
      refine Classical.byContradiction fun hunknown => ?_
      rw [hnone.mpr hunknown] at hv
      cases hv
    · cases hfound : Visibility.ofNameOrLabel? (Text.trim name) with
      | some v =>
        rw [hfound] at hname
        cases hname
      | none =>
        rw [hfound] at hname
        cases hname
        exact ⟨hnone.mp hfound, rfl⟩
  · rintro ⟨before, name, after, hsplit, hbefore, hname, rfl⟩
    refine ⟨before, name, after, hsplit, fun earlier hearlier => ?_, ?_⟩
    · obtain ⟨v, hv⟩ := Option.ne_none_iff_exists'.mp fun h => hnone.mp h (hbefore earlier hearlier)
      exact ⟨v, by rw [hv]⟩
    · rw [hnone.mpr hname]

/-- The policy of the configuration in a file. -/
def loadPolicy (reader : Reader) (tree : Tree) (path start : Path) : Except LoadError Policy := do
  let config ← load reader tree (some path) start
  config.policy.mapError .refused

theorem loadPolicy_of_holds {start : Path} (h : Holds reader tree path document) :
    loadPolicy reader tree path start = part? path document >>= fun part =>
      (ofValue reader.depth part).mapError (loadError path) >>= fun config =>
        (fromFile path config).policy.mapError .refused := by
  have hload : load reader tree (some path) start = read reader tree path := rfl
  rw [loadPolicy, hload, read_of_holds h]
  cases part? path document with
  | error error => rfl
  | ok part =>
    have hpart : (Except.ok part >>= decodeAt reader.depth path) =
        (ofValue reader.depth part).mapError (loadError path) := decodeAt_eq reader.depth path part
    rw [hpart]
    show (((ofValue reader.depth part).mapError (loadError path)).map (fromFile path) >>= _) =
      ((ofValue reader.depth part).mapError (loadError path) >>= _)
    cases (ofValue reader.depth part).mapError (loadError path) <;> rfl

theorem loadPolicy_of_options {start : Path} {error : DecodeError} (h : Holds reader tree path document)
    (hpart : Part path document part) (hvalue : ofValue reader.depth part = .error error) :
    loadPolicy reader tree path start = .error (loadError path error) := by
  rw [loadPolicy_of_holds h, part?_eq_ok_iff.mpr hpart]
  show ((ofValue reader.depth part).mapError (loadError path) >>= _) = _
  rw [hvalue]
  rfl

theorem loadPolicy_of_policy {start : Path} {config : Config} {error : ConfigError}
    (h : Holds reader tree path document) (hpart : Part path document part)
    (hvalue : ofValue reader.depth part = .ok config) (hpolicy : (fromFile path config).policy = .error error) :
    loadPolicy reader tree path start = .error (.refused error) := by
  rw [loadPolicy_of_holds h, part?_eq_ok_iff.mpr hpart]
  show ((ofValue reader.depth part).mapError (loadError path) >>= _) = _
  rw [hvalue]
  show (fromFile path config).policy.mapError LoadError.refused = _
  rw [hpolicy]
  rfl

/-- The ways in which a file with a document gives no policy. -/
theorem loadPolicy_eq_error_iff {start : Path} {error : LoadError} (h : Holds reader tree path document) :
    loadPolicy reader tree path start = .error error ↔ Escapes reader.depth path document error ∨
      ∃ fault, error = .refused ⟨path.text, fault⟩ ∧ Refused reader.depth path document fault := by
  constructor
  · intro hload
    rw [loadPolicy_of_holds h] at hload
    simp only [bind_eq_error_iff, part?_eq_error_iff reader.depth h.map_of_manifest, part?_eq_ok_iff] at hload
    obtain ⟨rfl, hescapes⟩ | ⟨part, hpart, hoptions | ⟨config, hconfig, hpolicy⟩⟩ := hload
    · exact .inl hescapes
    · obtain ⟨error, hvalue, rfl⟩ := mapError_eq_error_iff.mp hoptions
      obtain ⟨rfl, hmap⟩ | ⟨entries, hmap, hfirst⟩ := ofValue_eq_error_iff.mp hvalue
      · exact .inr ⟨_, rfl, .notMapping hpart hmap⟩
      · cases error with
        | fault fault => exact .inr ⟨fault, rfl, .option hpart hmap hfirst⟩
        | infiniteWorkers => exact .inl (.infiniteWorkers hpart hmap hfirst)
        | unshowable => exact .inl (.unshowable hpart hmap hfirst)
    · obtain ⟨entries, hmap, hentries⟩ := ofValue_eq_ok_iff.mp (mapError_eq_ok_iff.mp hconfig)
      obtain ⟨error, herror, rfl⟩ := mapError_eq_error_iff.mp hpolicy
      obtain ⟨before, name, after, hnames, hbefore, hname, rfl⟩ := policy_eq_error_iff.mp herror
      exact .inr ⟨_, rfl, .visibility hpart hmap hentries hnames hbefore hname⟩
  · have hnotTable : Escapes reader.depth path document .notTable →
        loadPolicy reader tree path start = .error .notTable := by
      intro hescapes
      rw [loadPolicy_of_holds h, (part?_eq_error_iff reader.depth h.map_of_manifest).mpr ⟨rfl, hescapes⟩]
      rfl
    rintro (hescapes | ⟨fault, rfl, hrefused⟩)
    · cases hescapes with
      | infiniteWorkers hpart hmap hfirst =>
        exact loadPolicy_of_options h hpart (ofValue_eq_error_iff.mpr (.inr ⟨_, hmap, hfirst⟩))
      | unshowable hpart hmap hfirst =>
        exact loadPolicy_of_options h hpart (ofValue_eq_error_iff.mpr (.inr ⟨_, hmap, hfirst⟩))
      | package hname hpackage htable => exact hnotTable (.package hname hpackage htable)
      | metadata hname hpackage hmetadata htable => exact hnotTable (.metadata hname hpackage hmetadata htable)
    · cases hrefused with
      | notMapping hpart hmap => exact loadPolicy_of_options h hpart (ofValue_eq_error_iff.mpr (.inl ⟨rfl, hmap⟩))
      | option hpart hmap hfirst =>
        exact loadPolicy_of_options h hpart (ofValue_eq_error_iff.mpr (.inr ⟨_, hmap, hfirst⟩))
      | visibility hpart hmap hconfig hnames hbefore hname =>
        refine loadPolicy_of_policy h hpart (ofValue_eq_ok_iff.mpr ⟨_, hmap, hconfig⟩) ?_
        exact policy_eq_error_iff.mpr ⟨_, _, _, hnames, hbefore, hname, rfl⟩

/-- **A bad configuration is refused.**  Let a file hold a document, whatever its values are.  Then it gives a policy or
is refused, unless something escapes the checks; and it is refused, under its own name, for exactly what is wrong. -/
theorem config_refused_unless_escaping (h : Holds reader tree path document) (start : Path) :
    ((∃ policy, loadPolicy reader tree path start = .ok policy) ∨
        (∃ refusal, loadPolicy reader tree path start = .error (.refused refusal)) ↔
      ∀ error, ¬ Escapes reader.depth path document error) ∧
    ∀ refusal, loadPolicy reader tree path start = .error (.refused refusal) ↔
      refusal.place = path.text ∧ Refused reader.depth path document refusal.fault := by
  have hplain : ∀ {error}, Escapes reader.depth path document error → ∀ refusal, error ≠ .refused refusal := by
    rintro error (_ | _ | _ | _) refusal hrefusal <;> cases hrefusal
  refine ⟨⟨?_, fun hno => ?_⟩, fun refusal => ?_⟩
  · rintro hload error hescapes
    have herror : loadPolicy reader tree path start = .error error := (loadPolicy_eq_error_iff h).mpr (.inl hescapes)
    obtain ⟨policy, hpolicy⟩ | ⟨refusal, hrefusal⟩ := hload
    · cases herror.symm.trans hpolicy
    · exact hplain hescapes refusal (Except.error.inj (herror.symm.trans hrefusal))
  · cases hload : loadPolicy reader tree path start with
    | ok policy => exact .inl ⟨policy, rfl⟩
    | error error =>
      obtain hescapes | ⟨fault, rfl, -⟩ := (loadPolicy_eq_error_iff h).mp hload
      · exact absurd hescapes (hno error)
      · exact .inr ⟨_, rfl⟩
  · rw [loadPolicy_eq_error_iff h]
    constructor
    · rintro (hescapes | ⟨fault, hrefusal, hrefused⟩)
      · exact absurd rfl (hplain hescapes refusal)
      · cases hrefusal
        exact ⟨rfl, hrefused⟩
    · rintro ⟨hplace, hrefused⟩
      exact .inr ⟨refusal.fault, by rw [← hplace], hrefused⟩

/-- A folder with a configuration of its own. -/
def configuredTree (name text : String) : Tree :=
  { top := .folder [(name, .file text.toUTF8.toList)] }

theorem holds_toml {text : String} {entries : Entries} (htext : Utf8.decode? text.toUTF8.toList = some text)
    (hparse : Toml.parse text = .ok entries) :
    Holds .standard (configuredTree "deadfn.toml" text) (.ofText "deadfn.toml") (.map entries) :=
  .toml rfl (by decide) htext hparse

/-- Whether a YAML file holds one entry, with an integer. -/
def holdsInteger (bytes : List UInt8) (key : String) (n : Int) : Bool :=
  match Yaml.parse bytes with
  | .ok (.map [(.text found, .int m)]) => found = key && m = n
  | _ => false

theorem holds_yaml {text key : String} {n : Int} (h : holdsInteger text.toUTF8.toList key n = true) :
    Holds .standard (configuredTree "deadfn.yaml" text) (.ofText "deadfn.yaml") (.map [(.text key, .int n)]) := by
  refine .yaml rfl (.inl (by decide)) ?_
  show Yaml.parse text.toUTF8.toList = _
  unfold holdsInteger at h
  split at h
  · next found m hparse =>
    obtain ⟨hkey, hn⟩ := Bool.and_eq_true_iff.mp h
    rw [hparse, of_decide_eq_true hkey, of_decide_eq_true hn]
  · cases h

theorem config_refused_unless_escaping_idle :
    (Holds .standard (configuredTree "deadfn.toml" "workers = 0") (.ofText "deadfn.toml")
        (.map [(.text "workers", .int 0)]) ∧
      loadPolicy .standard (configuredTree "deadfn.toml" "workers = 0") (.ofText "deadfn.toml") {} =
        .error (.refused ⟨"deadfn.toml", .workersTooFew⟩)) ∧
    (Holds .standard (configuredTree "deadfn.yaml" "workers: 0") (.ofText "deadfn.yaml")
        (.map [(.text "workers", .int 0)]) ∧
      loadPolicy .standard (configuredTree "deadfn.yaml" "workers: 0") (.ofText "deadfn.yaml") {} =
        .error (.refused ⟨"deadfn.yaml", .workersTooFew⟩)) := by
  have htoml : Holds .standard (configuredTree "deadfn.toml" "workers = 0") (.ofText "deadfn.toml")
      (.map [(.text "workers", .int 0)]) := holds_toml (by decide +kernel) rfl
  have hyaml : Holds .standard (configuredTree "deadfn.yaml" "workers: 0") (.ofText "deadfn.yaml")
      (.map [(.text "workers", .int 0)]) := holds_yaml (by decide +kernel)
  have hfirst : FirstFails Reader.standard.depth [(.text "workers", .int 0)] (.fault .workersTooFew) :=
    ofEntries_eq_error_iff.mp rfl
  refine ⟨⟨htoml, ?_⟩, hyaml, ?_⟩
  · refine ((config_refused_unless_escaping htoml {}).2 _).mpr ⟨by decide, ?_⟩
    exact .option (.whole (by decide) rfl) rfl hfirst
  · refine ((config_refused_unless_escaping hyaml {}).2 _).mpr ⟨by decide, ?_⟩
    exact .option (.whole (by decide) rfl) rfl hfirst

/-- An infinite number of workers is not refused. -/
theorem infinite_workers_escape :
    loadPolicy .standard (configuredTree "deadfn.toml" "workers = inf") (.ofText "deadfn.toml") {} =
      .error .infiniteWorkers := by
  have hholds : Holds .standard (configuredTree "deadfn.toml" "workers = inf") (.ofText "deadfn.toml")
      (.map [(.text "workers", .float (.infinite false))]) :=
    holds_toml (by decide +kernel) rfl
  refine (loadPolicy_eq_error_iff hholds).mpr (.inl ?_)
  exact .infiniteWorkers (.whole (by decide) rfl) rfl (ofEntries_eq_error_iff.mp rfl)

end Config

end Deadwood
