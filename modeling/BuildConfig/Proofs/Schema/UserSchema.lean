import BuildConfig.Proofs.Schema.Conformance
import BuildConfig.Schema.UserConfig

namespace BuildConfig

/-- Nothing but `false` is excepted, and only at a place that asks for kinds. -/
def Alternatives.Plain (accepted : Alternatives) : Prop :=
  (∀ exception ∈ accepted.exceptions, exception = .bool false) ∧
    (accepted.kinds = [] → accepted.exceptions = [])

theorem Alternatives.Plain.unmixed {accepted : Alternatives} (plain : accepted.Plain) : accepted.Unmixed :=
  fun noKinds => Or.inr (plain.2 noKinds)

theorem Alternatives.Plain.scalarExceptions {accepted : Alternatives} (plain : accepted.Plain) :
    accepted.ScalarExceptions := by
  intro exception listed
  rw [plain.1 exception listed]
  exact ⟨rfl, rfl⟩

namespace Schema

theorem Everywhere.imp {holds also : Alternatives → Prop} (implies : ∀ accepted, holds accepted → also accepted)
    {schema : Schema} (everywhere : schema.Everywhere holds) : schema.Everywhere also := by
  induction everywhere with
  | node here _ _ _ _ inFields inItems inValues inSingleEntry =>
    exact .node (implies _ here) inFields inItems inValues inSingleEntry

theorem Everywhere.accepted {holds : Alternatives → Prop} {schema : Schema} (everywhere : schema.Everywhere holds) :
    holds schema.accepted := by
  cases everywhere with
  | node here => exact here

theorem withFields_node {accepted : Alternatives} {fields more : List (String × Schema)}
    {unknownKeys : UnknownKeys} {requireAny : List String} {items values singleEntry : Option Schema} :
    (Schema.node accepted fields unknownKeys requireAny items values singleEntry).withFields more =
      .node accepted (Entries.assign fields more) unknownKeys requireAny items values singleEntry := by
  induction more generalizing fields with
  | nil => rfl
  | cons declaration rest ih =>
    obtain ⟨name, field⟩ := declaration
    rw [withFields, List.foldl_cons, ← withFields]
    exact ih

section Building

variable {holds : Alternatives → Prop}

theorem everywhere_leaf {accepted : Alternatives} {unknownKeys : UnknownKeys} {requireAny : List String}
    (here : holds accepted) :
    (Schema.node accepted [] unknownKeys requireAny none none none).Everywhere holds :=
  .node here (by simp) (by simp) (by simp) (by simp)

theorem Everywhere.withFields {schema : Schema} {more : List (String × Schema)}
    (whole : schema.Everywhere holds) (parts : ∀ declaration ∈ more, declaration.2.Everywhere holds) :
    (schema.withFields more).Everywhere holds := by
  obtain ⟨here, inFields, inItems, inValues, inSingleEntry⟩ := whole
  rw [withFields_node]
  refine .node here (fun name field held => ?_) inItems inValues inSingleEntry
  rcases Entries.mem_assign_cases held with added | before
  · exact parts (name, field) added
  · exact inFields name field before

theorem Everywhere.withItems {schema item : Schema} (whole : schema.Everywhere holds)
    (part : item.Everywhere holds) : (schema.withItems item).Everywhere holds := by
  obtain ⟨here, inFields, _, inValues, inSingleEntry⟩ := whole
  exact .node here inFields (by simpa using part) inValues inSingleEntry

theorem Everywhere.withValues {schema other : Schema} (whole : schema.Everywhere holds)
    (part : other.Everywhere holds) : (schema.withValues other).Everywhere holds := by
  obtain ⟨here, inFields, inItems, _, inSingleEntry⟩ := whole
  exact .node here inFields inItems (by simpa using part) inSingleEntry

theorem Everywhere.requiringAny {schema : Schema} (whole : schema.Everywhere holds) (keys : List String) :
    (schema.requiringAny keys).Everywhere holds := by
  obtain ⟨here, inFields, inItems, inValues, inSingleEntry⟩ := whole
  exact .node here inFields inItems inValues inSingleEntry

end Building

/-- A property of schemas that is kept by every way in which the schema of user configurations is put
together. The list of test-runner plugins is left apart: its items alone ask for a single entry. -/
structure Composable (holds : Schema → Prop) : Prop where
  leaf : ∀ {accepted : Alternatives} {unknownKeys : UnknownKeys}, accepted.Plain →
    holds (.node accepted [] unknownKeys [] none none none)
  withFields : ∀ {schema : Schema} {more : List (String × Schema)}, holds schema →
    (∀ declaration ∈ more, holds declaration.2) → holds (schema.withFields more)
  withItems : ∀ {schema item : Schema}, holds schema → holds item → holds (schema.withItems item)
  withValues : ∀ {schema other : Schema}, holds schema → holds other → holds (schema.withValues other)
  requiringAny : ∀ {schema : Schema} (keys : List String), holds schema → holds (schema.requiringAny keys)
  testPluginList : holds testPluginList

namespace Composable

variable {holds : Schema → Prop} (keeps : Composable holds)
include keeps

theorem ofKinds (kinds : List Kind) : holds (Schema.ofKinds kinds) :=
  keeps.leaf ⟨by simp [Alternatives.any], fun _ => rfl⟩

theorem ofKind (kind : Kind) : holds (Schema.ofKind kind) :=
  keeps.ofKinds [kind]

theorem orFalse (kind : Kind) : holds (Schema.ofKind kind).orFalse :=
  keeps.leaf ⟨by simp [Alternatives.any], by simp⟩

theorem ofChoices (choices : List String) : holds (Schema.ofChoices choices) :=
  keeps.leaf ⟨by simp [Alternatives.any], fun _ => rfl⟩

theorem record : holds Schema.record :=
  keeps.leaf ⟨by simp [Alternatives.any], fun _ => rfl⟩

theorem babel : holds Schema.babel := by
  have runtime : holds ((Schema.ofKind .boolean).orChoices ["helpers", "polyfill"]) :=
    keeps.leaf ⟨by simp [Alternatives.any], fun _ => rfl⟩
  refine keeps.withFields keeps.record ?_
  simp [keeps.ofKinds, keeps.ofKind, keeps.orFalse, runtime]

theorem karma : holds Schema.karma := by
  refine keeps.withFields keeps.record ?_
  simp [keeps.ofKinds, keeps.ofKind, keeps.testPluginList]

theorem npm : holds Schema.npm := by
  have disabled : holds Schema.record.orFalse := keeps.leaf ⟨by simp [Alternatives.any], by simp⟩
  have umd : holds Schema.umd := by
    refine keeps.withFields disabled ?_
    simp [keeps.ofKind]
  refine keeps.withFields keeps.record ?_
  simp [keeps.ofKind, umd]

theorem compat : holds Schema.compat := by
  have locales : holds (Schema.record.withFields [("locales", Schema.ofKind .array)]) := by
    refine keeps.withFields keeps.record ?_
    simp [keeps.ofKind]
  refine keeps.withFields keeps.record ?_
  simp [keeps.ofKind, show holds Schema.locales from locales]

theorem copy : holds Schema.copy := by
  refine keeps.requiringAny _ (keeps.withFields keeps.record ?_)
  simp [keeps.ofKind]

theorem rule : holds Schema.rule := by
  refine keeps.withFields (keeps.ofKind .object) ?_
  simp [keeps.ofKinds, keeps.ofKind, condition]

theorem styleEntry (loaderNames : List String) : holds (Schema.styleEntry loaderNames) := by
  have closed : holds ((Schema.ofKind .object).closedWith styleRuleProps) :=
    keeps.leaf ⟨by simp [Alternatives.any], fun _ => rfl⟩
  have loaders := keeps.withValues (keeps.ofKind .object) (keeps.ofKind .object)
  refine keeps.withFields (keeps.withFields closed ?_) ?_
  · simp [keeps.ofKinds, condition, loaders]
  · simp [keeps.ofKind]

theorem styles (plugins : Preprocessors) : holds (Schema.styles plugins) := by
  have closed : holds ((Schema.ofKind .object).orFalse.closedWith unknownStyleType) :=
    keeps.leaf ⟨by simp [Alternatives.any], by simp⟩
  refine keeps.withFields closed ?_
  simp [keeps.withItems (keeps.ofKind .array), keeps.styleEntry]

theorem webpack (plugins : Preprocessors) : holds (Schema.webpack plugins) := by
  have aliases := keeps.withValues (keeps.ofKind .object) (keeps.ofKind .string)
  have rules := keeps.withValues (keeps.ofKind .object) keeps.rule
  refine keeps.withFields keeps.record ?_
  simp [keeps.ofKinds, keeps.ofKind, keeps.orFalse, keeps.compat, keeps.copy, keeps.styles, aliases, rules]

theorem userConfig (plugins : Preprocessors) : holds (Schema.userConfig plugins) := by
  refine keeps.withFields keeps.record ?_
  simp [keeps.ofKind, keeps.ofChoices, keeps.babel, keeps.karma, keeps.npm, keeps.webpack]

end Composable

theorem composable_plain : Composable fun schema => schema.Everywhere Alternatives.Plain where
  leaf := everywhere_leaf
  withFields := Everywhere.withFields
  withItems := Everywhere.withItems
  withValues := Everywhere.withValues
  requiringAny keys whole := whole.requiringAny keys
  testPluginList := by
    have array : (ofKind .array).Everywhere Alternatives.Plain :=
      everywhere_leaf ⟨by simp [Alternatives.any], fun _ => rfl⟩
    refine array.withItems (.node ⟨by simp [Alternatives.any], fun _ => rfl⟩ (by simp) (by simp) (by simp) ?_)
    simpa using array

theorem plain_userConfig (plugins : Preprocessors) : (userConfig plugins).Everywhere Alternatives.Plain :=
  composable_plain.userConfig plugins

/-- No node of the schema of user configurations mixes choices with exceptions. -/
theorem unmixed_userConfig (plugins : Preprocessors) : (userConfig plugins).Everywhere Alternatives.Unmixed :=
  (plain_userConfig plugins).imp fun _ => Alternatives.Plain.unmixed

end Schema

end BuildConfig
