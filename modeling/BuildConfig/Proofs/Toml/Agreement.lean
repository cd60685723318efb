import BuildConfig.Proofs.Json.Patterns
import BuildConfig.Proofs.Toml.DistinctKeys

namespace BuildConfig

namespace Toml

namespace TomlValue

/-- There is no date in the document, and no float that is infinite or not a number. -/
inductive InJson : TomlValue → Prop
  | string {text : String} : InJson (.string text)
  | integer {value : Int} : InJson (.integer value)
  | float {value : Binary64} : InJson (.float (.finite value))
  | boolean {value : Bool} : InJson (.boolean value)
  | array {items : List TomlValue} (inside : ∀ item ∈ items, InJson item) : InJson (.array items)
  | table {entries : Entries TomlValue} (inside : ∀ key value, (key, value) ∈ entries → InJson value) :
      InJson (.table entries)

/-- What is in a document at any depth, the document itself among it. -/
inductive PartOf (inner : TomlValue) : TomlValue → Prop
  | whole : PartOf inner inner
  | array {items : List TomlValue} {item : TomlValue} (listed : item ∈ items) (inside : PartOf inner item) :
      PartOf inner (.array items)
  | table {entries : Entries TomlValue} {key : String} {value : TomlValue} (held : (key, value) ∈ entries)
      (inside : PartOf inner value) : PartOf inner (.table entries)

mutual

/-- The same data in JSON. A null stands in for what JSON does not have. -/
def toJson : TomlValue → Json
  | .string text => .string text
  | .integer value => .number (.int value)
  | .float (.finite value) => .number (.float value)
  | .float _ => .null
  | .boolean value => .bool value
  | .dateTime _ => .null
  | .array items => .array (toJsonItems items)
  | .table entries => .object (toJsonMembers entries)

def toJsonItems : List TomlValue → List Json
  | [] => []
  | item :: rest => item.toJson :: toJsonItems rest

def toJsonMembers : List (String × TomlValue) → List (String × Json)
  | [] => []
  | (key, value) :: rest => (key, value.toJson) :: toJsonMembers rest

end

theorem toJsonItems_eq (items : List TomlValue) : toJsonItems items = items.map toJson := by
  induction items with
  | nil => rfl
  | cons item rest ih => rw [toJsonItems, List.map_cons, ih]

theorem toJsonMembers_eq (entries : Entries TomlValue) :
    toJsonMembers entries = entries.map fun (key, value) => (key, value.toJson) := by
  induction entries with
  | nil => rfl
  | cons entry rest ih => rw [toJsonMembers, List.map_cons, ih]

theorem eq_string_of_toJson {value : TomlValue} {text : String} (same : value.toJson = .string text) :
    value = .string text := by
  unfold toJson at same
  split at same <;> cases same
  rfl

/-- A table and its object stand for the same pattern, or neither stands for one. -/
theorem patternSource?_toJson_eq_some_iff {entries : Entries TomlValue} {source : String} :
    Json.patternSource? (entries.map fun (key, value) => (key, value.toJson)) = some source ↔
      entries = [(patternKey, .string source)] := by
  rw [Json.patternSource?_eq_some_iff, Json.patternMembers, List.map_eq_singleton_iff]
  constructor
  · rintro ⟨⟨key, value⟩, rfl, same⟩
    obtain ⟨rfl, sameText⟩ := Prod.mk.inj same
    rw [eq_string_of_toJson sameText]
  · rintro rfl
    exact ⟨_, rfl, rfl⟩

end TomlValue

end Toml

namespace Value

open Toml (TomlValue)

variable {compiles : String → Bool}

theorem ofToml_array (items : List TomlValue) :
    ofToml compiles (.array items) = (items.mapM (ofToml compiles)).map .array := by
  rw [ofToml, ofTomlItems_eq]

theorem ofToml_pattern (source : String) :
    ofToml compiles (.table [(patternKey, .string source)]) = ofPattern compiles source := by
  rw [ofToml, if_pos rfl]

theorem ofToml_table {entries : Entries TomlValue} (plain : ∀ source, entries ≠ [(patternKey, .string source)]) :
    ofToml compiles (.table entries) = (entries.makeEach (ofToml compiles)).map .map := by
  rcases ofToml_table_cases entries with ⟨source, same, _⟩ | asMap
  · exact absurd same (plain source)
  · rw [asMap, ofTomlEntries_eq]

/-- The two readers agree on what both formats can say, in their faults as well. -/
theorem ofToml_eq_ofJson {document : TomlValue} (inJson : document.InJson) :
    ofToml compiles document = ofJson compiles document.toJson := by
  induction inJson with
  | string | integer | float | boolean => rfl
  | array _ ih =>
    rw [ofToml_array, TomlValue.toJson, TomlValue.toJsonItems_eq, ofJson_array, List.mapM_map, mapM_congr ih]
    rfl
  | @table entries _ ih =>
    rw [TomlValue.toJson, TomlValue.toJsonMembers_eq]
    cases found : Json.patternSource? (entries.map fun (key, value) => (key, value.toJson)) with
    | some source =>
      rw [Json.patternSource?_eq_some_iff.mp found, ofJson_pattern,
        TomlValue.patternSource?_toJson_eq_some_iff.mp found, ofToml_pattern]
    | none =>
      have plain : ∀ source, entries ≠ [(patternKey, .string source)] := by
        intro source same
        rw [TomlValue.patternSource?_toJson_eq_some_iff.mpr same] at found
        cases found
      rw [ofJson_object found, ofToml_table plain, Entries.makeEach_map, Entries.makeEach_congr ih]

/-- A float without a value in a configuration spoils the whole document. -/
theorem fault?_ofToml_of_partOf {value : Toml.TomlFloat} (noNumber : ∀ finite, value ≠ .finite finite)
    {document : TomlValue} (inside : (TomlValue.float value).PartOf document) :
    (fault? (ofToml compiles document)).isSome := by
  induction inside with
  | whole =>
    rw [ofToml, fault?_map]
    cases value with
    | finite number => exact absurd rfl (noNumber number)
    | infinite | notANumber => rfl
  | array listed _ ih =>
    rw [ofToml_array, fault?_map, fault?_mapM, List.findSome?_isSome_iff]
    exact ⟨_, listed, ih⟩
  | @table entries key inner held partOf ih =>
    have plain : ∀ source, entries ≠ [(patternKey, .string source)] := by
      rintro source rfl
      cases List.mem_singleton.mp held
      cases partOf
    rw [ofToml_table plain, fault?_map, Entries.fault?_makeEach, List.findSome?_isSome_iff]
    exact ⟨_, held, ih⟩

end Value

/-- Whichever patterns compile, a document in TOML is read as the same data in JSON is, and is not read at all with a
float that has no value. -/
theorem toml_and_json_readers_agree (compiles : String → Bool) :
    (∀ document : Toml.TomlValue, document.InJson →
      Value.ofToml compiles document = Value.ofJson compiles document.toJson) ∧
    ∀ (document : Toml.TomlValue) (value : Toml.TomlFloat), (∀ finite, value ≠ .finite finite) →
      (Toml.TomlValue.float value).PartOf document → ∃ fault, Value.ofToml compiles document = .error fault := by
  refine ⟨fun document => Value.ofToml_eq_ofJson, fun document value noNumber inside => ?_⟩
  obtain ⟨fault, found⟩ := Option.isSome_iff_exists.mp (Value.fault?_ofToml_of_partOf noNumber inside)
  exact ⟨fault, fault?_eq_some_iff.mp found⟩

/-- A table that stands for a pattern inside another one, and a float without an end in an array. -/
theorem toml_and_json_readers_agree_svg :
    let compiles : String → Bool := fun source => source == "a"
    let rule : Toml.TomlValue := .table [("test", .table [("$regex", .string "a")])]
    let endless : Toml.TomlValue := .table [("limits", .array [.integer 1, .float (.infinite true)])]
    (rule.InJson ∧ Value.ofToml compiles rule = Value.ofJson compiles rule.toJson) ∧
    ((∀ finite, Toml.TomlFloat.infinite true ≠ .finite finite) ∧
      (Toml.TomlValue.float (.infinite true)).PartOf endless ∧
      ∃ fault, Value.ofToml compiles endless = .error fault) := by
  intro compiles rule endless
  have inJson : rule.InJson := by
    refine .table fun key value held => ?_
    cases List.mem_singleton.mp held
    refine .table fun key value held => ?_
    cases List.mem_singleton.mp held
    exact .string
  have noNumber : ∀ finite, Toml.TomlFloat.infinite true ≠ .finite finite := by simp
  have inside : (Toml.TomlValue.float (.infinite true)).PartOf endless :=
    .table (List.mem_singleton_self _) (.array (List.mem_cons_of_mem _ (List.mem_singleton_self _)) .whole)
  exact ⟨⟨inJson, (toml_and_json_readers_agree compiles).1 rule inJson⟩, noNumber, inside,
    (toml_and_json_readers_agree compiles).2 endless _ noNumber inside⟩

end BuildConfig
