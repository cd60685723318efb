import BuildConfig.Json.Config
import BuildConfig.Json.Reader
import BuildConfig.Proofs.Value.Trees

namespace BuildConfig

/-- No object of a document, at any depth, has two members of one name. -/
inductive Json.DistinctNames : Json → Prop
  | null : DistinctNames .null
  | bool {value : Bool} : DistinctNames (.bool value)
  | number {value : Number} : DistinctNames (.number value)
  | string {text : String} : DistinctNames (.string text)
  | array {items : List Json} (inside : ∀ item ∈ items, DistinctNames item) : DistinctNames (.array items)
  | object {members : Entries Json} (distinct : Entries.Distinct members)
      (inside : ∀ name member, (name, member) ∈ members → DistinctNames member) : DistinctNames (.object members)

namespace JsonText

mutual

/-- Reading leaves no name twice: of members with one name the last one counts. -/
theorem distinctNames_of_toJson? {depth : Nat} {document : Json} :
    ∀ {text : JsonText}, toJson? depth text = some document → document.DistinctNames
  | .null, read => by
    cases read
    exact .null
  | .bool value, read => by
    cases read
    exact .bool
  | .number numeral, read => by
    obtain ⟨number, _, rfl⟩ := Option.map_eq_some_iff.mp read
    exact .number
  | .string escaped, read => by
    obtain ⟨text, _, rfl⟩ := Option.map_eq_some_iff.mp read
    exact .string
  | .array items, read => by
    rw [toJson?] at read
    split at read
    · cases read
    · obtain ⟨documents, inside, rfl⟩ := Option.map_eq_some_iff.mp read
      exact .array (distinctNames_of_itemsToJson? inside)
  | .object members, read => by
    rw [toJson?] at read
    split at read
    · cases read
    · obtain ⟨documents, inside, rfl⟩ := Option.map_eq_some_iff.mp read
      obtain ⟨distinct, each⟩ := distinctNames_of_membersToJson? Entries.distinct_nil (by simp) inside
      exact .object distinct each

theorem distinctNames_of_itemsToJson? {depth : Nat} {documents : List Json} :
    ∀ {items : List JsonText}, itemsToJson? depth items = some documents →
      ∀ document ∈ documents, document.DistinctNames
  | [], read => by
    cases read
    simp
  | item :: rest, read => by
    rw [itemsToJson?] at read
    obtain ⟨first, readFirst, later⟩ := Option.bind_eq_some_iff.mp read
    obtain ⟨others, readOthers, same⟩ := Option.bind_eq_some_iff.mp later
    cases same
    intro document listed
    rcases List.mem_cons.mp listed with rfl | other
    · exact distinctNames_of_toJson? readFirst
    · exact distinctNames_of_itemsToJson? readOthers document other

theorem distinctNames_of_membersToJson? {depth : Nat} {before after : Entries Json}
    (distinct : Entries.Distinct before) (inside : ∀ name member, (name, member) ∈ before → member.DistinctNames) :
    ∀ {members : List (List Char × JsonText)}, membersToJson? depth before members = some after →
      Entries.Distinct after ∧ ∀ name member, (name, member) ∈ after → member.DistinctNames
  | [], read => by
    cases read
    exact ⟨distinct, inside⟩
  | (escaped, value) :: rest, read => by
    rw [membersToJson?] at read
    obtain ⟨name, _, later⟩ := Option.bind_eq_some_iff.mp read
    obtain ⟨document, readValue, readRest⟩ := Option.bind_eq_some_iff.mp later
    refine distinctNames_of_membersToJson? (distinct.insert name document) (fun key member held => ?_) readRest
    rcases Entries.mem_insert_cases held with here | older
    · cases here
      exact distinctNames_of_toJson? readValue
    · exact inside key member older

end

end JsonText

namespace Value

variable {compiles : String → Bool}

theorem ofJsonItems_eq (items : List Json) : ofJsonItems compiles items = items.mapM (ofJson compiles) := by
  induction items with
  | nil => rfl
  | cons item rest ih => rw [ofJsonItems, List.mapM_cons, ih]

theorem ofJsonMembers_eq (members : Entries Json) :
    ofJsonMembers compiles members = members.makeEach (ofJson compiles) := by
  induction members with
  | nil => rfl
  | cons member rest ih =>
    obtain ⟨name, document⟩ := member
    rw [ofJsonMembers, ih, Entries.makeEach, Entries.makeEach, List.mapM_cons]
    cases ofJson compiles document <;> rfl

theorem distinctKeys_ofPattern {source : String} {value : Value} (made : ofPattern compiles source = .ok value) :
    value.DistinctKeys := by
  unfold ofPattern at made
  split at made
  · cases made
    exact trivial
  · cases made

/-- An object stands for a map, unless it is the one form that stands for a pattern. -/
theorem ofJson_object_cases (members : Entries Json) :
    (∃ source, members = [(patternKey, .string source)] ∧
        ofJson compiles (.object members) = ofPattern compiles source) ∨
      ofJson compiles (.object members) = (ofJsonMembers compiles members).map .map := by
  by_cases single : ∃ name source, members = [(name, .string source)]
  · obtain ⟨name, source, rfl⟩ := single
    by_cases isPattern : name = patternKey
    · subst name
      exact Or.inl ⟨source, rfl, by rw [ofJson, if_pos rfl]⟩
    · refine Or.inr ?_
      rw [ofJson, if_neg isPattern]
      rfl
  · refine Or.inr ?_
    rw [ofJson]
    exact fun name source same => single ⟨name, source, same⟩

theorem distinctKeys_ofJson {document : Json} (distinct : document.DistinctNames) {value : Value}
    (made : ofJson compiles document = .ok value) : value.DistinctKeys := by
  induction distinct generalizing value with
  | null | bool | number | string =>
    cases made
    exact trivial
  | array _ ih =>
    rw [ofJson, ofJsonItems_eq] at made
    obtain ⟨values, madeItems, rfl⟩ := map_eq_ok_iff.mp made
    refine distinctKeys_array.mpr fun item listed => ?_
    obtain ⟨source, held, madeItem⟩ := mem_of_mapM_eq_ok madeItems item listed
    exact ih source held madeItem
  | @object members distinct _ ih =>
    rcases ofJson_object_cases members with ⟨source, _, asPattern⟩ | asMap
    · rw [asPattern] at made
      exact distinctKeys_ofPattern made
    · rw [asMap, ofJsonMembers_eq] at made
      obtain ⟨entries, madeMembers, rfl⟩ := map_eq_ok_iff.mp made
      refine distinctKeys_map.mpr ⟨?_, fun key child found => ?_⟩
      · rwa [Entries.Distinct, Entries.keys_makeEach madeMembers]
      · obtain ⟨member, held, madeChild⟩ :=
          Entries.mem_of_makeEach madeMembers key child (Entries.mem_of_get? found)
        exact ih key member held madeChild

end Value

/-- What is read from a JSON text repeats no key. -/
theorem distinctKeys_of_json {compiles : String → Bool} {text : String} {document : Json}
    (read : Json.ofText? text = some document) {value : Value} (made : Value.ofJson compiles document = .ok value) :
    value.DistinctKeys := by
  obtain ⟨written, _, denotes⟩ := Option.bind_eq_some_iff.mp read
  exact Value.distinctKeys_ofJson (JsonText.distinctNames_of_toJson? denotes) made

end BuildConfig
