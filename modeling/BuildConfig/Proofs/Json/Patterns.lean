import BuildConfig.Proofs.Json.DistinctKeys
import BuildConfig.Proofs.Value.Walks

namespace BuildConfig

namespace Json

/-- Induction over documents. What holds of the documents inside an array or an object is available for the whole. -/
@[elab_as_elim]
theorem documentInduction {motive : Json → Prop} (null : motive .null) (bool : ∀ value, motive (.bool value))
    (number : ∀ value, motive (.number value)) (string : ∀ text, motive (.string text))
    (array : ∀ items, (∀ item ∈ items, motive item) → motive (.array items))
    (object : ∀ members, (∀ name member, (name, member) ∈ members → motive member) → motive (.object members)) :
    ∀ document, motive document
  | .null => null
  | .bool value => bool value
  | .number value => number value
  | .string text => string text
  | .array items => array items fun item _ => documentInduction null bool number string array object item
  | .object members => object members fun _ member _ => documentInduction null bool number string array object member
termination_by document => sizeOf document
decreasing_by
  · have smaller := List.sizeOf_lt_of_mem (by assumption : item ∈ items)
    simp only [Json.array.sizeOf_spec]
    omega
  · rename_i name held
    have smaller := List.sizeOf_lt_of_mem held
    simp only [Prod.mk.sizeOf_spec] at smaller
    simp only [Json.object.sizeOf_spec]
    omega

/-- The document one step inside: under a name of an object, or at a position of an array. -/
def child? : Json → Segment → Option Json
  | .object members, .key name => Entries.get? members name
  | .array items, .index position => items[position]?
  | _, _ => none

/-- The document that is reached by following steps. -/
def walk? (document : Json) : List Segment → Option Json
  | [] => some document
  | step :: rest => (document.child? step).bind fun child => child.walk? rest

theorem walk?_nil (document : Json) : document.walk? [] = some document := by
  rw [walk?]

theorem walk?_cons (document : Json) (step : Segment) (rest : List Segment) :
    document.walk? (step :: rest) = (document.child? step).bind fun child => child.walk? rest := by
  rw [walk?]

/-- The members of the object that stands for the regular expression with a source. -/
def patternMembers (source : String) : Entries Json :=
  [(patternKey, .string source)]

/-- The source of the regular expression that an object with these members stands for. -/
def patternSource? : Entries Json → Option String
  | [(name, .string source)] => if name = patternKey then some source else none
  | _ => none

theorem patternSource?_eq_some_iff {members : Entries Json} {source : String} :
    patternSource? members = some source ↔ members = patternMembers source := by
  constructor
  · intro found
    unfold patternSource? at found
    split at found
    · split at found
      · rename_i isPattern
        cases found
        rw [isPattern, patternMembers]
      · cases found
    · cases found
  · rintro rfl
    rw [patternMembers, patternSource?, if_pos rfl]

/-- There is no object inside the one that stands for a regular expression. -/
theorem walk?_pattern_cons (source : String) (step : Segment) (rest : List Segment) (members : Entries Json) :
    (Json.object (patternMembers source)).walk? (step :: rest) ≠ some (.object members) := by
  rw [walk?_cons]
  intro reached
  obtain ⟨child, found, further⟩ := Option.bind_eq_some_iff.mp reached
  have isText : child = .string source := by
    cases step with
    | index => cases found
    | key name =>
      have held := Entries.mem_of_get? found
      rw [patternMembers, List.mem_singleton] at held
      exact congrArg Prod.snd held
  subst child
  cases rest with
  | nil => cases further
  | cons next others => cases next <;> cases further

mutual

/-- The sources of the regular expressions in a document, in its order. -/
def patternSources : Json → List String
  | .array items => itemSources items
  | .object members => (patternSource? members).toList ++ memberSources members
  | _ => []

def itemSources : List Json → List String
  | [] => []
  | item :: rest => item.patternSources ++ itemSources rest

def memberSources : List (String × Json) → List String
  | [] => []
  | (_, member) :: rest => member.patternSources ++ memberSources rest

end

theorem itemSources_eq (items : List Json) : itemSources items = items.flatMap patternSources := by
  induction items with
  | nil => rfl
  | cons item rest ih => rw [itemSources, List.flatMap_cons, ih]

theorem memberSources_eq (members : Entries Json) :
    memberSources members = members.flatMap fun member => member.2.patternSources := by
  induction members with
  | nil => rfl
  | cons member rest ih => rw [memberSources, List.flatMap_cons, ih]

theorem patternSources_array (items : List Json) :
    (Json.array items).patternSources = items.flatMap patternSources := by
  rw [patternSources, itemSources_eq]

theorem patternSources_pattern (source : String) : (Json.object (patternMembers source)).patternSources = [source] := by
  rw [patternSources, patternSource?_eq_some_iff.mpr rfl]
  rfl

theorem patternSources_object {members : Entries Json} (plain : patternSource? members = none) :
    (Json.object members).patternSources = members.flatMap fun member => member.2.patternSources := by
  rw [patternSources, plain, memberSources_eq]
  rfl

/-- The sources are those of the objects that a walk can reach. -/
theorem mem_patternSources_iff {document : Json} (distinct : document.DistinctNames) {source : String} :
    source ∈ document.patternSources ↔ ∃ steps, document.walk? steps = some (.object (patternMembers source)) := by
  constructor
  · intro listed
    induction distinct with
    | null | bool | number | string => cases listed
    | array _ ih =>
      rw [patternSources_array] at listed
      obtain ⟨item, held, inside⟩ := List.mem_flatMap.mp listed
      obtain ⟨position, bound, rfl⟩ := List.mem_iff_getElem.mp held
      obtain ⟨steps, reached⟩ := ih _ held inside
      refine ⟨.index position :: steps, ?_⟩
      rw [walk?_cons, child?, List.getElem?_eq_getElem bound, Option.bind_some, reached]
    | @object members distinct _ ih =>
      cases found : patternSource? members with
      | some only =>
        obtain rfl := patternSource?_eq_some_iff.mp found
        rw [patternSources_pattern, List.mem_singleton] at listed
        exact ⟨[], by rw [walk?_nil, listed]⟩
      | none =>
        rw [patternSources_object found] at listed
        obtain ⟨⟨name, member⟩, held, inside⟩ := List.mem_flatMap.mp listed
        obtain ⟨steps, reached⟩ := ih name member held inside
        refine ⟨.key name :: steps, ?_⟩
        rw [walk?_cons, child?, distinct.get?_of_mem held, Option.bind_some, reached]
  · rintro ⟨steps, reached⟩
    clear distinct
    induction steps generalizing document with
    | nil =>
      cases reached
      rw [patternSources_pattern]
      exact List.mem_singleton_self source
    | cons step rest ih =>
      rw [walk?_cons] at reached
      obtain ⟨child, found, further⟩ := Option.bind_eq_some_iff.mp reached
      have inside := ih further
      cases document <;> cases step <;> try cases found
      case array.index items position =>
        rw [patternSources_array]
        exact List.mem_flatMap.mpr ⟨child, List.mem_of_getElem? found, inside⟩
      case object.key members name =>
        rw [patternSources, memberSources_eq]
        exact List.mem_append_right _ (List.mem_flatMap.mpr ⟨(name, child), Entries.mem_of_get? found, inside⟩)

end Json

namespace Value

variable {compiles : String → Bool}

theorem ofJson_array (items : List Json) :
    ofJson compiles (.array items) = (items.mapM (ofJson compiles)).map .array := by
  rw [ofJson, ofJsonItems_eq]

theorem ofJson_pattern (source : String) :
    ofJson compiles (.object (Json.patternMembers source)) = ofPattern compiles source := by
  rw [Json.patternMembers, ofJson, if_pos rfl]

theorem ofJson_object {members : Entries Json} (plain : Json.patternSource? members = none) :
    ofJson compiles (.object members) = (members.makeEach (ofJson compiles)).map .map := by
  rcases ofJson_object_cases members with ⟨source, same, _⟩ | asMap
  · rw [Json.patternSource?_eq_some_iff.mpr same] at plain
    cases plain
  · rw [asMap, ofJsonMembers_eq]

theorem fault?_ofPattern (source : String) :
    fault? (ofPattern compiles source) = if compiles source then none else some (.pattern source) := by
  rw [ofPattern]
  split <;> rfl

/-- A document is read unless a source in it does not compile; the first such source is at fault. -/
theorem fault?_ofJson (document : Json) :
    fault? (ofJson compiles document) =
      (document.patternSources.find? fun source => !compiles source).map .pattern := by
  induction document using Json.documentInduction with
  | null | bool | number | string => rfl
  | array items ih =>
    rw [ofJson_array, fault?_map, fault?_mapM, Json.patternSources_array, List.find?_flatMap, List.map_findSome?]
    exact findSome?_congr ih
  | object members ih =>
    cases found : Json.patternSource? members with
    | some source =>
      obtain rfl := Json.patternSource?_eq_some_iff.mp found
      rw [ofJson_pattern, fault?_ofPattern, Json.patternSources_pattern, List.find?_singleton]
      cases compiles source <;> rfl
    | none =>
      rw [ofJson_object found, fault?_map, Entries.fault?_makeEach, Json.patternSources_object found,
        List.find?_flatMap, List.map_findSome?]
      exact findSome?_congr fun member held => ih member.1 member.2 held

/-- Away from patterns, what a document stands for is taken apart as the document is. -/
theorem child?_ofJson {document : Json} {value : Value} (made : ofJson compiles document = .ok value)
    (plain : ∀ source, document ≠ .object (Json.patternMembers source)) (step : Segment) :
    (document.child? step).map (ofJson compiles) = (value.child? step).map .ok := by
  cases document with
  | null | bool | number | string =>
    cases made
    cases step <;> rfl
  | array items =>
    rw [ofJson_array] at made
    obtain ⟨values, madeItems, rfl⟩ := map_eq_ok_iff.mp made
    cases step with
    | key => rfl
    | index position => exact getElem?_mapM madeItems position
  | object members =>
    have notPattern : Json.patternSource? members = none := by
      cases found : Json.patternSource? members with
      | none => rfl
      | some source => exact absurd (congrArg Json.object (Json.patternSource?_eq_some_iff.mp found)) (plain source)
    rw [ofJson_object notPattern] at made
    obtain ⟨entries, madeMembers, rfl⟩ := map_eq_ok_iff.mp made
    cases step with
    | key name => exact Entries.get?_makeEach madeMembers name
    | index => rfl

theorem ofPattern_eq_ok_iff {source : String} {value : Value} :
    ofPattern compiles source = .ok value ↔ compiles source = true ∧ value = .pattern source := by
  rw [ofPattern]
  split
  · rename_i valid
    rw [Except.ok.injEq, eq_comm, and_iff_right valid]
  · rename_i invalid
    simp [invalid]

/-- Only the objects that stand for patterns become patterns. -/
theorem ofJson_eq_pattern_iff {document : Json} {value : Value} (made : ofJson compiles document = .ok value)
    {source : String} : value = .pattern source ↔ document = .object (Json.patternMembers source) := by
  cases document with
  | null | bool | number | string =>
    cases made
    simp
  | array items =>
    rw [ofJson_array] at made
    obtain ⟨values, _, rfl⟩ := map_eq_ok_iff.mp made
    simp
  | object members =>
    cases found : Json.patternSource? members with
    | some only =>
      obtain rfl := Json.patternSource?_eq_some_iff.mp found
      rw [ofJson_pattern] at made
      obtain ⟨_, rfl⟩ := ofPattern_eq_ok_iff.mp made
      simp [Json.patternMembers]
    | none =>
      rw [ofJson_object found] at made
      obtain ⟨entries, _, rfl⟩ := map_eq_ok_iff.mp made
      rw [Json.object.injEq, ← Json.patternSource?_eq_some_iff, found]
      simp

/-- The patterns of what a document stands for are where the document has the objects that stand for them. -/
theorem walk?_ofJson_eq_pattern_iff {document : Json} {value : Value} (made : ofJson compiles document = .ok value)
    (steps : List Segment) (source : String) :
    value.walk? steps = some (.pattern source) ↔
      document.walk? steps = some (.object (Json.patternMembers source)) := by
  induction steps generalizing document value with
  | nil => rw [walk?_nil, Json.walk?_nil, Option.some.injEq, Option.some.injEq, ofJson_eq_pattern_iff made]
  | cons step rest ih =>
    rw [walk?_cons, Json.walk?_cons]
    by_cases isPattern : ∃ only, document = .object (Json.patternMembers only)
    · -- There is nothing inside a pattern, and no object inside the object that stands for it.
      obtain ⟨only, rfl⟩ := isPattern
      rw [ofJson_pattern] at made
      obtain ⟨_, rfl⟩ := ofPattern_eq_ok_iff.mp made
      rw [← Json.walk?_cons]
      exact iff_of_false (by cases step <;> simp [child?]) (Json.walk?_pattern_cons only step rest _)
    · have inside := child?_ofJson made (not_exists.mp isPattern) step
      cases found : document.child? step with
      | none =>
        rw [found, Option.map_none, eq_comm, Option.map_eq_none_iff] at inside
        rw [inside]
        simp
      | some child =>
        rw [found, Option.map_some, eq_comm, Option.map_eq_some_iff] at inside
        obtain ⟨inner, reached, makes⟩ := inside
        rw [reached]
        exact ih makes.symm

end Value

end BuildConfig
