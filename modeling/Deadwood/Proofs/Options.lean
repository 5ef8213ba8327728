/-
What can be wrong with the options of a configuration.

Options are looked for at thirteen places of a document, in a fixed order
(`Config.readings`). What is wrong with a value depends on the kind of its option
alone (`Config.Wrong`), and the first place with a wrong value decides how the
document fails (`Config.ofEntries_eq_error_iff`).
-/
import Deadwood.Config.Decode
import Deadwood.Proofs.Computations
import Deadwood.Proofs.Showing

namespace Deadwood

theorem Format.ofName?_eq_none_iff {name : String} :
    ofName? name = none ↔ ∀ format : Format, format.name ≠ name := by
  have hall : ∀ format, format ∈ all := by
    intro format
    cases format <;> decide
  simp [ofName?, hall]

namespace Config

/-! ### Places and kinds of options -/

/-- What an option is read as. -/
inductive Kind where
  | texts | format | text | workers

/-- A place at which an option is looked for: a key, at the top level or in the mapping `roots`. -/
structure Reading where
  key : String
  kind : Kind
  inRoots : Bool := false

/-- The places, in the order in which they are looked at. -/
def readings : List Reading :=
  [{ key := "paths", kind := .texts }, { key := "exclude", kind := .texts }, { key := "keep_alive", kind := .texts },
   { key := "ignore", kind := .texts }, { key := "root_visibilities", kind := .texts },
   { key := "entry_names", kind := .texts }, { key := "format", kind := .format }, { key := "output", kind := .text },
   { key := "workers", kind := .workers }, { key := "root_visibilities", kind := .texts, inRoots := true },
   { key := "entry_names", kind := .texts, inRoots := true }, { key := "keep_alive", kind := .texts, inRoots := true },
   { key := "visibilities", kind := .texts, inRoots := true }]

/-- The value at a place. -/
def Reading.value? (reading : Reading) (entries : Entries) : Option Value :=
  Value.lookup? (if reading.inRoots then rootEntries entries else entries) reading.key

/-- A value stands for an integer. -/
inductive Whole : Value → Int → Prop where
  | int (n : Int) : Whole (.int n) n
  | bool (b : Bool) : Whole (.bool b) (if b then 1 else 0)
  | float {x : Binary64} {n : Int} (h : x.truncate = .ok n) : Whole (.float x) n
  | text {s : String} {n : Int} (h : Numeral.int? s = some n) : Whole (.text s) n
  | bytes {b : List UInt8} {s : String} {n : Int} (htext : numeralText? b = some s) (h : Numeral.int? s = some n) :
    Whole (.bytes b) n

/-- What is wrong with the value of an option, where the parts of a value may be nested to a depth. -/
inductive Wrong (depth : Nat) (key : String) (value : Value) : Kind → DecodeError → Prop where
  | notTexts (htext : ∀ s, value.content ≠ .text s) (hlist : ∀ items, value.content ≠ .list items) :
    Wrong depth key value .texts (.fault (.notTexts key))
  | item {before after : List Value} {item : Value} {fault : Value.ShowFault}
      (hlist : value.content = .list (before ++ item :: after))
      (hbefore : ∀ earlier ∈ before, earlier.Showable (depth - itemLevels))
      (hitem : item.Unshowable (depth - itemLevels) fault) : Wrong depth key value .texts (.unshowable fault)
  | unknownFormat {name : String} (hshown : value.Showable depth)
      (hname : name = Text.lower (Text.trim value.display)) (hunknown : ∀ format : Format, format.name ≠ name) :
    Wrong depth key value .format (.fault (.unknownFormat name))
  | format {fault : Value.ShowFault} (h : value.Unshowable depth fault) :
    Wrong depth key value .format (.unshowable fault)
  | text {fault : Value.ShowFault} (h : value.Unshowable depth fault) : Wrong depth key value .text (.unshowable fault)
  | infinite {negative : Bool} (hvalue : value = .float (.infinite negative)) :
    Wrong depth key value .workers .infiniteWorkers
  | notInteger (hnull : value ≠ .null) (hfinite : ∀ negative, value ≠ .float (.infinite negative))
      (hwhole : ∀ n, ¬ Whole value n) : Wrong depth key value .workers (.fault .workersNotInteger)
  | tooFew {n : Int} (hwhole : Whole value n) (hfew : n < 1) : Wrong depth key value .workers (.fault .workersTooFew)

/-- The value at a place is wrong. -/
def Reading.Fails (depth : Nat) (reading : Reading) (entries : Entries) (error : DecodeError) : Prop :=
  ∃ value, reading.value? entries = some value ∧ Wrong depth reading.key value reading.kind error

/-- The first place with a wrong value. -/
def FirstFails (depth : Nat) (entries : Entries) (error : DecodeError) : Prop :=
  ∃ before reading after, readings = before ++ reading :: after ∧
    (∀ earlier ∈ before, ∀ other, ¬ earlier.Fails depth entries other) ∧ reading.Fails depth entries error

/-! ### The fault of one option -/

variable {depth : Nat} {key : String} {value : Value} {error : DecodeError}

theorem display_eq_error_iff :
    display depth value = .error error ↔ ∃ fault, error = .unshowable fault ∧ value.Unshowable depth fault := by
  rw [display]
  simp only [← Value.fault?_eq_some_iff]
  cases value.fault? depth <;> simp [eq_comm]

theorem display_eq_ok_iff {text : String} :
    display depth value = .ok text ↔ value.Showable depth ∧ text = value.display := by
  rw [display, ← Value.fault?_eq_none_iff]
  cases value.fault? depth <;> simp [eq_comm]

theorem decodeTexts_eq_error_iff : decodeTexts depth key value = .error error ↔ Wrong depth key value .texts error := by
  constructor
  · intro h
    rw [decodeTexts] at h
    split at h
    · cases h
    · next items hlist =>
      obtain ⟨before, item, after, rfl, hbefore, hitem⟩ := mapM_eq_error_iff.mp h
      obtain ⟨fault, rfl, hfault⟩ := display_eq_error_iff.mp hitem
      refine .item hlist (fun earlier hearlier => ?_) hfault
      obtain ⟨text, htext⟩ := hbefore earlier hearlier
      exact (display_eq_ok_iff.mp htext).1
    · next htext hlist =>
      cases h
      exact .notTexts htext hlist
  · rintro (⟨htext, hlist⟩ | ⟨hlist, hbefore, hitem⟩)
    · rw [decodeTexts]
      split
      · next s hs => exact absurd hs (htext s)
      · next items hitems => exact absurd hitems (hlist items)
      · rfl
    · rw [decodeTexts, hlist]
      refine mapM_eq_error_iff.mpr ⟨_, _, _, rfl, fun earlier hearlier => ?_, ?_⟩
      · exact ⟨_, display_eq_ok_iff.mpr ⟨hbefore earlier hearlier, rfl⟩⟩
      · exact display_eq_error_iff.mpr ⟨_, rfl, hitem⟩

theorem wrong_format_iff : Wrong depth key value .format error ↔ display depth value = .error error ∨
    ∃ text, display depth value = .ok text ∧ Format.ofName? (Text.lower (Text.trim text)) = none ∧
      error = .fault (.unknownFormat (Text.lower (Text.trim text))) := by
  simp only [display_eq_error_iff, display_eq_ok_iff, Format.ofName?_eq_none_iff]
  constructor
  · rintro (_ | _ | ⟨hshown, rfl, hunknown⟩ | hfault)
    · exact .inr ⟨_, ⟨hshown, rfl⟩, hunknown, rfl⟩
    · exact .inl ⟨_, rfl, hfault⟩
  · rintro (⟨fault, rfl, hfault⟩ | ⟨text, ⟨hshown, rfl⟩, hunknown, rfl⟩)
    · exact .format hfault
    · exact .unknownFormat hshown rfl hunknown

theorem decodeFormat_eq_error_iff :
    decodeFormat depth value = .error error ↔ Wrong depth key value .format error := by
  rw [wrong_format_iff, decodeFormat]
  cases display depth value with
  | error other => simp [bind, Except.bind]
  | ok text =>
    simp only [bind, Except.bind]
    cases hname : Format.ofName? (Text.lower (Text.trim text)) with
    | some format => simp [hname, pure, Except.pure]
    | none => simp [hname, eq_comm]

theorem decodeText_eq_error_iff : decodeText depth value = .error error ↔ Wrong depth key value .text error := by
  have hwrong : Wrong depth key value .text error ↔ display depth value = .error error := by
    rw [display_eq_error_iff]
    constructor
    · rintro (_ | _ | _ | _ | hfault)
      exact ⟨_, rfl, hfault⟩
    · rintro ⟨fault, rfl, hfault⟩
      exact .text hfault
  rw [hwrong]
  by_cases hnull : value = .null
  · subst hnull
    simp [decodeText, display, Value.fault?]
  · rw [decodeText.eq_2 depth value hnull]
    cases display depth value <;> simp [Except.map]

theorem decodeInteger_of_whole {n : Int} (h : Whole value n) : decodeInteger value = .ok n := by
  cases h with
  | int => rfl
  | bool => rfl
  | float h => simp [decodeInteger, h]
  | text h => simp [decodeInteger, h]
  | bytes htext h => simp [decodeInteger, htext, h]

/-- A value is an integer, or infinite, or no number at all. -/
theorem decodeInteger_cases (value : Value) : (∃ n, Whole value n) ∨ (∃ negative, value = .float (.infinite negative)) ∨
    decodeInteger value = .error (.fault .workersNotInteger) := by
  cases value with
  | int n => exact .inl ⟨n, .int n⟩
  | bool b => exact .inl ⟨_, .bool b⟩
  | float x =>
    cases x with
    | nan => exact .inr (.inr rfl)
    | infinite negative => exact .inr (.inl ⟨negative, rfl⟩)
    | finite negative significand exponent => exact .inl ⟨_, .float rfl⟩
  | text s =>
    cases hint : Numeral.int? s with
    | some n => exact .inl ⟨n, .text hint⟩
    | none => exact .inr (.inr (by simp [decodeInteger, hint]))
  | bytes b =>
    cases hint : (numeralText? b).bind Numeral.int? with
    | some n =>
      obtain ⟨s, htext, hint⟩ := Option.bind_eq_some_iff.mp hint
      exact .inl ⟨n, .bytes htext hint⟩
    | none => exact .inr (.inr (by simp [decodeInteger, hint]))
  | _ => exact .inr (.inr rfl)

theorem decodeInteger_eq_ok_iff {n : Int} : decodeInteger value = .ok n ↔ Whole value n := by
  refine ⟨fun h => ?_, decodeInteger_of_whole⟩
  obtain ⟨m, hm⟩ | ⟨negative, rfl⟩ | hdecode := decodeInteger_cases value
  · rwa [Except.ok.inj (h.symm.trans (decodeInteger_of_whole hm))]
  · cases h
  · cases hdecode.symm.trans h

theorem decodeInteger_eq_error_iff : decodeInteger value = .error error ↔
    error = .infiniteWorkers ∧ (∃ negative, value = .float (.infinite negative)) ∨
    error = .fault .workersNotInteger ∧ (∀ negative, value ≠ .float (.infinite negative)) ∧ ∀ n, ¬ Whole value n := by
  constructor
  · intro h
    obtain ⟨m, hm⟩ | ⟨negative, rfl⟩ | hdecode := decodeInteger_cases value
    · cases h.symm.trans (decodeInteger_of_whole hm)
    · cases h
      exact .inl ⟨rfl, negative, rfl⟩
    · refine .inr ⟨Except.error.inj (h.symm.trans hdecode), ?_, fun n hn => ?_⟩
      · rintro negative rfl
        cases hdecode
      · cases hdecode.symm.trans (decodeInteger_of_whole hn)
  · rintro (⟨rfl, negative, rfl⟩ | ⟨rfl, hfinite, hwhole⟩)
    · rfl
    · obtain ⟨m, hm⟩ | ⟨negative, hinfinite⟩ | hdecode := decodeInteger_cases value
      · exact absurd hm (hwhole m)
      · exact absurd hinfinite (hfinite negative)
      · exact hdecode

theorem wrong_workers_iff : Wrong depth key value .workers error ↔ value ≠ .null ∧
    (decodeInteger value = .error error ∨
      error = .fault .workersTooFew ∧ ∃ n, decodeInteger value = .ok n ∧ n < 1) := by
  simp only [decodeInteger_eq_error_iff, decodeInteger_eq_ok_iff]
  constructor
  · rintro (_ | _ | _ | _ | _ | ⟨rfl⟩ | ⟨hnull, hfinite, hwhole⟩ | ⟨hwhole, hfew⟩)
    · exact ⟨by simp, .inl (.inl ⟨rfl, _, rfl⟩)⟩
    · exact ⟨hnull, .inl (.inr ⟨rfl, hfinite, hwhole⟩)⟩
    · refine ⟨?_, .inr ⟨rfl, _, hwhole, hfew⟩⟩
      rintro rfl
      cases hwhole
  · rintro ⟨hnull, (⟨rfl, negative, hinfinite⟩ | ⟨rfl, hfinite, hwhole⟩) | ⟨rfl, n, hwhole, hfew⟩⟩
    · exact .infinite hinfinite
    · exact .notInteger hnull hfinite hwhole
    · exact .tooFew hwhole hfew

theorem decodeWorkers_eq_error_iff : decodeWorkers value = .error error ↔ Wrong depth key value .workers error := by
  rw [wrong_workers_iff]
  by_cases hnull : value = .null
  · simp [hnull, decodeWorkers]
  · rw [decodeWorkers.eq_2 value hnull]
    cases decodeInteger value with
    | error other => simp [hnull, bind, Except.bind]
    | ok n =>
      by_cases hfew : n < 1
      · simp [hnull, hfew, bind, Except.bind, eq_comm]
      · simp [hnull, hfew, bind, Except.bind, pure, Except.pure]

/-! ### The first fault of a document -/

/-- What the decoder of a kind of options says about a value. -/
def Kind.check (depth : Nat) (key : String) : Kind → Value → Except DecodeError Unit
  | .texts, value => discard (decodeTexts depth key value)
  | .format, value => discard (decodeFormat depth value)
  | .text, value => discard (decodeText depth value)
  | .workers, value => discard (decodeWorkers value)

theorem Kind.check_eq_error_iff {kind : Kind} :
    kind.check depth key value = .error error ↔ Wrong depth key value kind error := by
  cases kind with
  | texts => exact discard_eq_error_iff.trans decodeTexts_eq_error_iff
  | format => exact discard_eq_error_iff.trans decodeFormat_eq_error_iff
  | text => exact discard_eq_error_iff.trans decodeText_eq_error_iff
  | workers => exact discard_eq_error_iff.trans decodeWorkers_eq_error_iff

/-- What the decoder of an option says about the value at a place, if there is one. -/
def Reading.check (depth : Nat) (entries : Entries) (reading : Reading) : Except DecodeError Unit :=
  option (if reading.inRoots then rootEntries entries else entries) reading.key ()
    (reading.kind.check depth reading.key)

variable {entries : Entries}

theorem Reading.check_eq_error_iff {reading : Reading} :
    reading.check depth entries = .error error ↔ reading.Fails depth entries error := by
  rw [check, Config.option, Fails, value?]
  cases Value.lookup? (if reading.inRoots then rootEntries entries else entries) reading.key with
  | none => simp
  | some value => simp [Kind.check_eq_error_iff]

theorem discard_option {α : Type} {default : α} {decode : Value → Except DecodeError α} :
    discard (option entries key default decode) = option entries key () fun value => discard (decode value) := by
  rw [option, option]
  cases Value.lookup? entries key <;> rfl

theorem discard_ofEntries (depth : Nat) (entries : Entries) :
    discard (ofEntries depth entries) = discard (readings.mapM (Reading.check depth entries)) := by
  unfold ofEntries readings
  -- A value that was read before is at most a default later on, so it never decides whether reading goes on.
  refine discard_bind discard_option fun paths => ?_
  refine discard_bind discard_option fun excluded => ?_
  refine discard_bind discard_option fun keepAlive => ?_
  refine discard_bind discard_option fun ignored => ?_
  refine discard_bind discard_option fun visibilities => ?_
  refine discard_bind discard_option fun entryNames => ?_
  refine discard_bind discard_option fun format => ?_
  refine discard_bind discard_option fun output => ?_
  refine discard_bind discard_option fun workers => ?_
  refine discard_bind discard_option fun visibilities => ?_
  refine discard_bind discard_option fun entryNames => ?_
  refine discard_bind discard_option fun keepAlive => ?_
  refine discard_bind discard_option fun visibilities => ?_
  rfl

/-- A document fails as the first of its wrong values does. -/
theorem ofEntries_eq_error_iff : ofEntries depth entries = .error error ↔ FirstFails depth entries error := by
  have hpasses : ∀ reading : Reading, (∃ result, reading.check depth entries = .ok result) ↔
      ∀ other, ¬ reading.Fails depth entries other := by
    intro reading
    simp only [← Reading.check_eq_error_iff]
    cases reading.check depth entries <;> simp
  rw [← discard_eq_error_iff, discard_ofEntries, discard_eq_error_iff, mapM_eq_error_iff]
  simp only [hpasses, Reading.check_eq_error_iff]
  rfl

/-- Only a mapping gives a configuration. -/
theorem ofValue_eq_ok_iff {config : Config} :
    ofValue depth value = .ok config ↔
      ∃ entries, value.content = .map entries ∧ ofEntries depth entries = .ok config := by
  rw [ofValue]
  cases value.content <;> simp

end Config

end Deadwood
