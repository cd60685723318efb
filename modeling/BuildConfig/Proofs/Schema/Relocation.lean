import BuildConfig.Proofs.Schema.Parts

namespace BuildConfig

/-- The same problem in a tree that lies at a place inside of another. -/
def Problem.within (outer : Path) (found : Problem) : Problem :=
  { found with path := outer.extend found.path.segments }

/-- The same notice on a tree that lies at a place inside of another. -/
def Notice.within (outer : Path) (notice : Notice) : Notice :=
  { notice with path := outer.extend notice.path.segments }

def Finding.within (outer : Path) : Finding → Finding
  | .problem found => .problem (found.within outer)
  | .deprecation notice => .deprecation (notice.within outer)
  | .hint notice => .hint (notice.within outer)

theorem Finding.path_within (outer : Path) (finding : Finding) :
    (finding.within outer).path = outer.extend finding.path.segments := by
  cases finding <;> rfl

theorem problems_map_within (outer : Path) (findings : List Finding) :
    problems (findings.map (Finding.within outer)) = (problems findings).map (Problem.within outer) := by
  rw [problems, problems, List.filterMap_map, List.map_filterMap]
  refine List.filterMap_congr fun finding _ => ?_
  cases finding <;> rfl

theorem hintNotices_map_within (outer : Path) (findings : List Finding) :
    hintNotices (findings.map (Finding.within outer)) = (hintNotices findings).map (Notice.within outer) := by
  rw [hintNotices, hintNotices, List.filterMap_map, List.map_filterMap]
  refine List.filterMap_congr fun finding _ => ?_
  cases finding <;> rfl

namespace Schema

/-- The parts of a value lie inside of it. -/
theorem mem_of_mem_parts {schema : Schema} {value : Value} {part : Part} (isPart : part ∈ schema.parts value) :
    (∃ members, value = .array members ∧ part.value ∈ members) ∨
      ∃ entries key, value = .map entries ∧ (key, part.value) ∈ entries := by
  obtain ⟨accepted, fields, unknownKeys, requireAny, items, values, singleEntry⟩ := schema
  rcases parts_cases value with none | ⟨entries, rfl, isMap⟩ | ⟨members, rfl, isArray⟩
  · rw [none] at isPart
    cases isPart
  · rw [isMap, List.mem_append, mem_fieldParts_iff, mem_undeclaredParts_iff] at isPart
    rcases isPart with ⟨name, _, set, _⟩ | ⟨_, key, held, _, _⟩
    · exact Or.inr ⟨entries, name, rfl, Entries.mem_of_get? (Value.notNull?_eq_some_iff.mp set).1⟩
    · exact Or.inr ⟨entries, key, rfl, held⟩
  · rw [isArray, mem_itemParts_iff] at isPart
    obtain ⟨_, position, held, _⟩ := isPart
    exact Or.inl ⟨members, rfl, List.mem_of_getElem? held⟩

/-- Induction along a check: what holds of a value if it does of the parts that its check goes on with holds of every
value. The keys of a map may repeat here, so that a part need not be what its step leads to. -/
@[elab_as_elim]
theorem partInduction {motive : Schema → Value → Prop}
    (step : ∀ schema value, (∀ part ∈ schema.parts value, motive part.node part.value) → motive schema value)
    (schema : Schema) (value : Value) : motive schema value := by
  induction value using Value.treeInduction generalizing schema with
  | leaf value notMap notArray =>
    refine step schema value fun part isPart => ?_
    rcases mem_of_mem_parts isPart with ⟨_, rfl, _⟩ | ⟨_, _, rfl, _⟩
    · cases notArray
    · cases notMap
  | array members inside =>
    refine step schema _ fun part isPart => ?_
    rcases mem_of_mem_parts isPart with ⟨_, same, held⟩ | ⟨_, _, isMap, _⟩
    · cases same
      exact inside part.value held part.node
    · cases isMap
  | map entries inside =>
    refine step schema _ fun part isPart => ?_
    rcases mem_of_mem_parts isPart with ⟨_, isArray, _⟩ | ⟨_, key, same, held⟩
    · cases isArray
    · cases same
      exact inside key part.value held part.node

section Extend

variable (outer path : Path) (entries : Entries Value)

theorem unknownKeyFindings_extend (unknownKeys : UnknownKeys) (declared : List String) :
    unknownKeyFindings unknownKeys declared (outer.extend path.segments) entries =
      (unknownKeyFindings unknownKeys declared path entries).map (Finding.within outer) := by
  cases unknownKeys with
  | allow => rfl
  | reject message =>
    simp only [unknownKeyFindings]
    split <;> rfl

theorem requiredKeyFindings_extend (requireAny : List String) :
    requiredKeyFindings requireAny (outer.extend path.segments) entries =
      (requiredKeyFindings requireAny path entries).map (Finding.within outer) := by
  unfold requiredKeyFindings
  split <;> rfl

/-- What is said about a value itself does not depend on its place. -/
theorem ownFindings_extend (schema : Schema) (value : Value) :
    schema.ownFindings (outer.extend path.segments) value =
      (schema.ownFindings path value).map (Finding.within outer) := by
  obtain ⟨accepted, fields, unknownKeys, requireAny, items, values, singleEntry⟩ := schema
  simp only [ownFindings]
  split
  · rfl
  · rename_i message meant _
    cases meant <;> rfl
  · split
    · unfold singleEntryProblems
      split
      · split <;> rfl
      · rfl
    · rw [unknownKeyFindings_extend, requiredKeyFindings_extend, List.map_append]
    · rfl

/-- A check that starts further inside finds the same, at places further inside. -/
theorem findings_extend (schema : Schema) (value : Value) :
    schema.findings (outer.extend path.segments) value = (schema.findings path value).map (Finding.within outer) := by
  induction schema, value using partInduction generalizing path with
  | step schema value inside =>
    rw [findings_eq, findings_eq schema path, List.map_append, ownFindings_extend, List.map_flatMap]
    congr 1
    refine List.flatMap_congr fun part isPart => ?_
    rw [← inside part isPart, Path.extend_extend]
    rfl

end Extend

/-- A check finds the same wherever it starts. -/
theorem findings_eq_map_within (schema : Schema) (path : Path) (value : Value) :
    schema.findings path value = (schema.findings .root value).map (Finding.within path) := by
  simpa only [Path.root, Path.extend_nil] using findings_extend path .root schema value

end Schema

end BuildConfig
