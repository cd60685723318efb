import BuildConfig.Proofs.Hoist.Alike

namespace BuildConfig

open Value

/-- A key of a style rule whose value moves. `loaders` is none, even if a loader goes by that name. -/
def Moves (loaderNames : List String) (entry : Entries Value) (key : String) : Prop :=
  key ∈ Entries.keys entry ∧ key ≠ "loaders" ∧ key ∈ loaderNames

instance (loaderNames : List String) (entry : Entries Value) (key : String) : Decidable (Moves loaderNames entry key) :=
  inferInstanceAs (Decidable (_ ∧ _ ∧ _))

/-- The entries that move, in the order of the rule. -/
def movedEntries (loaderNames : List String) (entry : Entries Value) : Entries Value :=
  (entry.filter fun (key, _) => key != "loaders").filter fun (key, _) => loaderNames.contains key

/-- The loaders that a style rule has before anything moves. -/
def declaredLoaders (entry : Entries Value) : Entries Value :=
  ((Entries.get? entry "loaders").getD .empty).entries

section Loaders

variable {loaderNames : List String} {entry : Entries Value}

theorem gatheredLoaders_eq (loaderNames : List String) (entry : Entries Value) :
    gatheredLoaders loaderNames entry = (movedEntries loaderNames entry).foldl
      (fun loaders (key, options) => setLoaderOptions loaders key options) (declaredLoaders entry) :=
  rfl

theorem get?_movedEntries (loaderNames : List String) (entry : Entries Value) (name : String) :
    Entries.get? (movedEntries loaderNames entry) name =
      if Moves loaderNames entry name then Entries.get? entry name else none := by
  rw [movedEntries, Entries.get?_filter _ fun key => loaderNames.contains key,
    Entries.get?_filter entry fun key => key != "loaders"]
  cases found : Entries.get? entry name with
  | none => simp
  | some value =>
    have present : name ∈ Entries.keys entry := Entries.mem_keys_iff.mpr ⟨value, found⟩
    by_cases loader : name ∈ loaderNames <;> by_cases isLoaders : name = "loaders" <;>
      simp [Moves, present, loader, isLoaders]

theorem keys_movedEntries (loaderNames : List String) (entry : Entries Value) :
    Entries.keys (movedEntries loaderNames entry) =
      (Entries.keys entry).filter fun key => Moves loaderNames entry key := by
  have both : movedEntries loaderNames entry =
      entry.filter ((fun key => loaderNames.contains key && key != "loaders") ∘ Prod.fst) := by
    rw [movedEntries, List.filter_filter]
    rfl
  rw [both, Entries.keys, ← List.filter_map]
  refine List.filter_congr fun key held => ?_
  have present : key ∈ Entries.keys entry := held
  rw [Bool.eq_iff_iff]
  simp [Moves, present, and_comm]

theorem distinct_movedEntries (distinct : Entries.Distinct entry) :
    Entries.Distinct (movedEntries loaderNames entry) :=
  (distinct.filter _).filter _

theorem keys_setLoaderOptions (loaders : Entries Value) (loader : String) (options : Value) :
    Entries.keys (setLoaderOptions loaders loader options) =
      if loader ∈ Entries.keys loaders then Entries.keys loaders else Entries.keys loaders ++ [loader] :=
  Entries.keys_insert ..

/-- Loaders that get options keep their places, and new ones come after them. -/
theorem keys_setLoaders {moved : Entries Value} (distinct : Entries.Distinct moved) (loaders : Entries Value) :
    Entries.keys (moved.foldl (fun loaders (key, options) => setLoaderOptions loaders key options) loaders) =
      Entries.keys loaders ++ (Entries.keys moved).filter fun key => key ∉ Entries.keys loaders := by
  induction moved generalizing loaders with
  | nil => simp
  | cons first rest ih =>
    obtain ⟨name, options⟩ := first
    have other : ∀ key ∈ Entries.keys rest, key ≠ name := by
      rintro key held rfl
      exact Entries.get?_eq_none_iff.mp distinct.get?_tail held
    rw [List.foldl_cons, ih distinct.tail, keys_setLoaderOptions, Entries.keys_cons]
    by_cases present : name ∈ Entries.keys loaders
    · rw [if_pos present, List.filter_cons_of_neg (by simpa using present)]
    · -- the loader that comes first is none of the later ones, so they are as new as before
      have later : (Entries.keys rest).filter (fun key => key ∉ Entries.keys loaders ++ [name]) =
          (Entries.keys rest).filter fun key => key ∉ Entries.keys loaders := by
        refine List.filter_congr fun key held => ?_
        simp [other key held]
      rw [if_neg present, later, List.filter_cons_of_pos (by simpa using present), List.append_assoc,
        List.singleton_append]

/-- What the loaders of a style rule are once all that moves is there. -/
structure LoadersJoined (loaderNames : List String) (entry loaders : Entries Value) : Prop where
  moved : ∀ name, Moves loaderNames entry name → ∃ settings, Entries.get? loaders name = some (.map settings) ∧
    Entries.get? settings "options" = Entries.get? entry name ∧
    ∀ key ≠ "options",
      Entries.get? settings key = ((Entries.get? (declaredLoaders entry) name).getD .empty).get? key
  others : ∀ name, ¬Moves loaderNames entry name →
    Entries.get? loaders name = Entries.get? (declaredLoaders entry) name
  keys : Entries.keys loaders = Entries.keys (declaredLoaders entry) ++
    (Entries.keys entry).filter fun key => Moves loaderNames entry key ∧ key ∉ Entries.keys (declaredLoaders entry)

theorem loadersJoined_gatheredLoaders (distinct : Entries.Distinct entry) :
    LoadersJoined loaderNames entry (gatheredLoaders loaderNames entry) where
  moved := by
    intro name moves
    obtain ⟨options, held⟩ := Entries.mem_keys_iff.mp moves.1
    rw [gatheredLoaders_eq, get?_setLoaders (distinct_movedEntries distinct), get?_movedEntries, if_pos moves, held]
    refine ⟨_, rfl, Entries.get?_insert_self _ _ _, fun key notOptions => ?_⟩
    rw [Entries.get?_insert_of_ne _ _ (Ne.symm notOptions)]
    rfl
  others := by
    intro name stays
    rw [gatheredLoaders_eq, get?_setLoaders (distinct_movedEntries distinct), get?_movedEntries, if_neg stays]
    rfl
  keys := by
    rw [gatheredLoaders_eq, keys_setLoaders (distinct_movedEntries distinct), keys_movedEntries, List.filter_filter]
    congr 1
    refine List.filter_congr fun key _ => ?_
    rw [Bool.eq_iff_iff]
    simp [and_comm]

theorem LoadersJoined.eq_nil_iff {loaders : Entries Value} (joined : LoadersJoined loaderNames entry loaders) :
    loaders = [] ↔ declaredLoaders entry = [] ∧ ∀ key, ¬Moves loaderNames entry key := by
  have empty (entries : Entries Value) : entries = [] ↔ Entries.keys entries = [] := by simp [Entries.keys]
  rw [empty loaders, joined.keys, List.append_eq_nil_iff, ← empty]
  refine and_congr_right fun none => ?_
  rw [none, List.filter_eq_nil_iff]
  constructor
  · intro stays key moves
    exact stays key moves.1 (by simpa using moves)
  · intro stays key _
    simpa using stays key

end Loaders

section Places

variable {loaderNames : List String} {entry : Entries Value}

/-- Where a value of a style rule is found once the loader keys have moved. -/
def placeAfterMove (loaderNames : List String) (entry : Entries Value) : List String → List String
  | [] => []
  | key :: rest => if Moves loaderNames entry key then "loaders" :: key :: "options" :: rest else key :: rest

/-- The values of a style rule that need not be found again. They are the options of a loader to which other options
move, what stands for such a loader without being a map, and loaders that are no map or an empty one. -/
def Superseded (loaderNames : List String) (entry : Entries Value) (place : List String) : Prop :=
  (∃ name inside, Moves loaderNames entry name ∧ place = "loaders" :: name :: "options" :: inside) ∨
  (∃ name loader, Moves loaderNames entry name ∧ Entries.get? (declaredLoaders entry) name = some loader ∧
    loader.isMap = false ∧ place = ["loaders", name]) ∨
  ∃ loaders, Entries.get? entry "loaders" = some loaders ∧ (loaders.isMap = false ∨ loaders = .empty) ∧
    place = ["loaders"]

/-- The maps that take in what moves. -/
def Opened (loaderNames : List String) (entry : Entries Value) (place : List String) : Prop :=
  place = ["loaders"] ∨ ∃ name, Moves loaderNames entry name ∧ place = ["loaders", name]

/-- A value is found again at its new place, or what it was has been opened for more. -/
def FoundAgain (loaderNames : List String) (entry hoisted : Entries Value) (place : List String) (value : Value) :
    Prop :=
  ∃ other, (Value.map hoisted).getPath? (placeAfterMove loaderNames entry place) = some other ∧
    (other = value ∨ Opened loaderNames entry place ∧ value.isMap = true ∧ other.isMap = true)

theorem FoundAgain.of_scalar {hoisted : Entries Value} {place : List String} {value : Value}
    (again : FoundAgain loaderNames entry hoisted place value) (notMap : value.isMap = false) :
    (Value.map hoisted).getPath? (placeAfterMove loaderNames entry place) = some value := by
  obtain ⟨other, found, rfl | ⟨_, isMap, _⟩⟩ := again
  · exact found
  · rw [notMap] at isMap
    cases isMap

/-- The loaders stay where they are. -/
theorem placeAfterMove_loaders (loaderNames : List String) (entry : Entries Value) (inside : List String) :
    placeAfterMove loaderNames entry ("loaders" :: inside) = "loaders" :: inside :=
  if_neg fun moves => moves.2.1 rfl

/-- What a style rule has below its loaders is in what they declare. -/
theorem getPath?_loaders (entry : Entries Value) (name : String) (inside : List String) :
    (Value.map entry).getPath? ("loaders" :: name :: inside) =
      (Entries.get? (declaredLoaders entry) name).bind fun loader => loader.getPath? inside := by
  rw [getPath?_cons, get?_map, declaredLoaders]
  cases Entries.get? entry "loaders" with
  | none => rfl
  | some loaders => exact getPath?_cons loaders name inside

theorem declaredLoaders_hoistStyleEntry (loaderNames : List String) (entry : Entries Value) :
    declaredLoaders (hoistStyleEntry loaderNames entry) = gatheredLoaders loaderNames entry := by
  rw [declaredLoaders, get?_hoistStyleEntry_loaders, entries_get?_lastEntry]

theorem foundAgain_of_moves (distinct : Entries.Distinct entry) {name : String} (moves : Moves loaderNames entry name)
    {inside : List String} {value : Value} (held : (Value.map entry).getPath? (name :: inside) = some value) :
    FoundAgain loaderNames entry (hoistStyleEntry loaderNames entry) (name :: inside) value := by
  obtain ⟨settings, atName, options, _⟩ := (loadersJoined_gatheredLoaders distinct).moved name moves
  refine ⟨value, ?_, Or.inl rfl⟩
  rw [placeAfterMove, if_pos moves, getPath?_loaders, declaredLoaders_hoistStyleEntry, atName, Option.bind_some,
    getPath?_cons, get?_map, options, ← get?_map, ← getPath?_cons, held]

theorem foundAgain_of_stays {name : String} (stays : ¬Moves loaderNames entry name) (notLoaders : name ≠ "loaders")
    {inside : List String} {value : Value} (held : (Value.map entry).getPath? (name :: inside) = some value) :
    FoundAgain loaderNames entry (hoistStyleEntry loaderNames entry) (name :: inside) value := by
  have present : name ∈ Entries.keys entry := by
    rw [getPath?_cons] at held
    obtain ⟨child, found, _⟩ := Option.bind_eq_some_iff.mp held
    exact Entries.mem_keys_iff.mpr ⟨child, found⟩
  have noLoader : ¬loaderNames.contains name = true := fun loader =>
    stays ⟨present, notLoaders, List.contains_iff_mem.mp loader⟩
  refine ⟨value, ?_, Or.inl rfl⟩
  rw [placeAfterMove, if_neg stays, getPath?_cons, get?_map, get?_hoistStyleEntry, if_neg notLoaders, if_neg noLoader,
    ← get?_map, ← getPath?_cons, held]

/-- The loaders themselves are found again, with more in them, if they are a map that holds anything. -/
theorem foundAgain_of_loaders (distinct : Entries.Distinct entry) {value : Value}
    (held : (Value.map entry).getPath? ["loaders"] = some value)
    (stands : ¬Superseded loaderNames entry ["loaders"]) :
    FoundAgain loaderNames entry (hoistStyleEntry loaderNames entry) ["loaders"] value := by
  rw [getPath?_single, get?_map] at held
  have isMap : value.isMap = true := by
    by_contra notMap
    exact stands (Or.inr (Or.inr ⟨value, held, Or.inl (Bool.not_eq_true _ ▸ notMap), rfl⟩))
  have declared : declaredLoaders entry ≠ [] := by
    intro none
    obtain ⟨inside, rfl⟩ := isMap_iff.mp isMap
    rw [declaredLoaders, held, Option.getD_some, entries_map] at none
    exact stands (Or.inr (Or.inr ⟨_, held, Or.inr (congrArg Value.map none), rfl⟩))
  have gathered : gatheredLoaders loaderNames entry ≠ [] := fun none =>
    declared ((loadersJoined_gatheredLoaders distinct).eq_nil_iff.mp none).1
  refine ⟨.map (gatheredLoaders loaderNames entry), ?_, Or.inr ⟨Or.inl rfl, isMap, rfl⟩⟩
  rw [placeAfterMove_loaders, getPath?_single, get?_map, get?_hoistStyleEntry_loaders,
    lastEntry_of_ne_nil "loaders" gathered]
  rfl

/-- Where options move to a loader, all is found again but what they cover. -/
theorem foundAgain_of_joined (distinct : Entries.Distinct entry) {name : String} (moves : Moves loaderNames entry name)
    {inside : List String} {value : Value}
    (held : (Value.map entry).getPath? ("loaders" :: name :: inside) = some value)
    (stands : ¬Superseded loaderNames entry ("loaders" :: name :: inside)) :
    FoundAgain loaderNames entry (hoistStyleEntry loaderNames entry) ("loaders" :: name :: inside) value := by
  obtain ⟨settings, gathered, _, others⟩ := (loadersJoined_gatheredLoaders distinct).moved name moves
  rw [FoundAgain, placeAfterMove_loaders, getPath?_loaders, declaredLoaders_hoistStyleEntry, gathered,
    Option.bind_some]
  rw [getPath?_loaders] at held
  obtain ⟨loader, atName, below⟩ := Option.bind_eq_some_iff.mp held
  cases inside with
  | nil =>
    have isMap : loader.isMap = true := by
      by_contra notMap
      exact stands (Or.inr (Or.inl ⟨name, loader, moves, atName, Bool.not_eq_true _ ▸ notMap, rfl⟩))
    rw [getPath?_nil, Option.some.injEq] at below
    exact ⟨_, getPath?_nil _, Or.inr ⟨Or.inr ⟨name, moves, rfl⟩, below ▸ isMap, rfl⟩⟩
  | cons key rest =>
    have notOptions : key ≠ "options" := by
      rintro rfl
      exact stands (Or.inl ⟨name, rest, moves, rfl⟩)
    have same : Entries.get? settings key = loader.get? key := by rw [others key notOptions, atName, Option.getD_some]
    exact ⟨value, by rw [getPath?_cons, get?_map, same, ← getPath?_cons, below], Or.inl rfl⟩

theorem foundAgain_of_declared (distinct : Entries.Distinct entry) {name : String}
    (stays : ¬Moves loaderNames entry name) {inside : List String} {value : Value}
    (held : (Value.map entry).getPath? ("loaders" :: name :: inside) = some value) :
    FoundAgain loaderNames entry (hoistStyleEntry loaderNames entry) ("loaders" :: name :: inside) value := by
  refine ⟨value, ?_, Or.inl rfl⟩
  rw [placeAfterMove_loaders, getPath?_loaders, declaredLoaders_hoistStyleEntry,
    (loadersJoined_gatheredLoaders distinct).others name stays, ← getPath?_loaders, held]

/-- Every value of a style rule that does not give way is found again. -/
theorem foundAgain_of_not_superseded (distinct : Entries.Distinct entry) {place : List String} (nonempty : place ≠ [])
    {value : Value} (held : (Value.map entry).getPath? place = some value)
    (stands : ¬Superseded loaderNames entry place) :
    FoundAgain loaderNames entry (hoistStyleEntry loaderNames entry) place value := by
  obtain ⟨key, rest, rfl⟩ := List.exists_cons_of_ne_nil nonempty
  by_cases moves : Moves loaderNames entry key
  · exact foundAgain_of_moves distinct moves held
  by_cases loaders : key = "loaders"
  · subst key
    cases rest with
    | nil => exact foundAgain_of_loaders distinct held stands
    | cons name inside =>
      by_cases joined : Moves loaderNames entry name
      · exact foundAgain_of_joined distinct joined held stands
      · exact foundAgain_of_declared distinct joined held
  · exact foundAgain_of_stays moves loaders held

end Places

/-- Moving the loader keys of a style rule accounts for every value in it. Whatever is neither a loader key nor
`loaders` stays, in the order of the rule, and the loaders come last, left out if there are none. Among them a loader
with a key in the rule is a map that has the value of that key for its options and all else as declared. Every other
loader is as declared, and there are no more. So each value of the rule is found again, unless it is one of those that
give way. -/
theorem hoistStyleEntry_accounts_for_values (loaderNames : List String) {entry : Entries Value}
    (distinct : Entries.Distinct entry) :
    (∃ loaders, hoistStyleEntry loaderNames entry =
        (entry.filter fun (key, _) => key ∉ loaderNames ∧ key ≠ "loaders") ++ lastEntry "loaders" loaders ∧
      LoadersJoined loaderNames entry loaders ∧
      (loaders = [] ↔ declaredLoaders entry = [] ∧ ∀ key, ¬Moves loaderNames entry key)) ∧
    ∀ place value, place ≠ [] → (Value.map entry).getPath? place = some value → ¬Superseded loaderNames entry place →
      FoundAgain loaderNames entry (hoistStyleEntry loaderNames entry) place value := by
  have joined : LoadersJoined loaderNames entry (gatheredLoaders loaderNames entry) :=
    loadersJoined_gatheredLoaders distinct
  refine ⟨⟨gatheredLoaders loaderNames entry, ?_, joined, joined.eq_nil_iff⟩, fun place value nonempty held stands =>
    foundAgain_of_not_superseded distinct nonempty held stands⟩
  rw [hoistStyleEntry_eq, List.filter_filter]
  congr 1
  refine List.filter_congr fun entry _ => ?_
  rw [Bool.eq_iff_iff]
  simp

/-- A loader with options in both places, one that stands for no map, one without options, and a loader by the name of
`loaders`. -/
theorem hoistStyleEntry_accounts_for_values_sass :
    let loaderNames : List String := ["style", "css", "postcss", "sass", "loaders"]
    let entry : Entries Value :=
      [("css", .map [("modules", .bool true)]), ("include", .string "src"),
        ("loaders", .map [("style", .string "fast"), ("sass", .bool true),
          ("css", .map [("options", .map [("old", .null)]), ("loader", .string "own")])]),
        ("sass", .null), ("exclude", .null)]
    let hoisted : Value := .map (hoistStyleEntry loaderNames entry)
    Entries.Distinct entry ∧
      (∃ loaders, hoisted = .map [("include", .string "src"), ("exclude", .null), ("loaders", .map loaders)] ∧
        LoadersJoined loaderNames entry loaders ∧ Entries.keys loaders = ["style", "sass", "css"]) ∧
      hoisted.getPath? ["loaders", "css", "options", "modules"] = some (.bool true) ∧
      hoisted.getPath? ["loaders", "css", "loader"] = some (.string "own") ∧
      Superseded loaderNames entry ["loaders", "css", "options", "old"] ∧
      Superseded loaderNames entry ["loaders", "sass"] := by
  intro loaderNames entry hoisted
  have distinct : Entries.Distinct entry := by
    unfold Entries.Distinct
    decide
  have cssMoves : Moves loaderNames entry "css" := by decide
  have sassMoves : Moves loaderNames entry "sass" := by decide
  obtain ⟨⟨loaders, parts, joined, _⟩, again⟩ := hoistStyleEntry_accounts_for_values loaderNames distinct
  have keys : Entries.keys loaders = ["style", "sass", "css"] := joined.keys.trans (by decide)
  have some : loaders ≠ [] := by
    rintro rfl
    cases keys
  rw [lastEntry_of_ne_nil "loaders" some] at parts
  have moved := again ["css", "modules"] (.bool true) (by simp) rfl (by simp [Superseded])
  have stayed := again ["loaders", "css", "loader"] (.string "own") (by simp) rfl (by simp [Superseded])
  have covered : Superseded loaderNames entry ["loaders", "css", "options", "old"] :=
    Or.inl ⟨"css", ["old"], cssMoves, rfl⟩
  have replaced : Superseded loaderNames entry ["loaders", "sass"] :=
    Or.inr (Or.inl ⟨"sass", .bool true, sassMoves, rfl, rfl, rfl⟩)
  exact ⟨distinct, ⟨loaders, congrArg Value.map parts, joined, keys⟩, moved.of_scalar rfl, stayed.of_scalar rfl,
    covered, replaced⟩

end BuildConfig
