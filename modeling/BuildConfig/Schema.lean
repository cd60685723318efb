import BuildConfig.Value.Equality
import BuildConfig.Value.Inspect
import BuildConfig.Wording

namespace BuildConfig

/-- A kind of value that a place can ask for. -/
inductive Kind where
  | string
  | boolean
  | number
  | array
  | object
  | function
  | pattern
  deriving DecidableEq

namespace Kind

def accepts : Kind → Value → Bool
  | .string, .string _ => true
  | .boolean, .bool _ => true
  | .number, .number _ => true
  | .array, .array _ => true
  | .object, .map _ => true
  | .function, .function _ => true
  | .pattern, .pattern _ => true
  | _, _ => false

def describe : Kind → String
  | .string => "a string"
  | .boolean => "a boolean"
  | .number => "a number"
  | .array => "an array"
  | .object => "an object"
  | .function => "a function"
  | .pattern => "a regular expression"

end Kind

/-- What a place accepts, before a look inside the value: kinds, strings to choose from, and single
values that pass whatever their kind. -/
structure Alternatives where
  kinds : List Kind
  choices : List String
  exceptions : List Value
  description : Option String

namespace Alternatives

/-- No demands at all. -/
def any : Alternatives := ⟨[], [], [], none⟩

def isException (accepted : Alternatives) (value : Value) : Bool :=
  accepted.exceptions.any fun exception => exception.same value

def matchesKind (accepted : Alternatives) (value : Value) : Bool :=
  accepted.kinds.any fun kind => kind.accepts value

/-- The value passes as an exception or by its kind; without kinds, every kind will do. -/
def acceptsKind (accepted : Alternatives) (value : Value) : Bool :=
  accepted.isException value || accepted.kinds.isEmpty || accepted.matchesKind value

def quotedChoices (accepted : Alternatives) : String :=
  String.intercalate ", " (accepted.choices.map fun choice => "'" ++ choice ++ "'")

/-- What is accepted, in words: the description if there is one, else exceptions, kinds and
choices. -/
def describe (accepted : Alternatives) : String :=
  match accepted.description with
  | some description => description
  | none =>
    joinOr (accepted.exceptions.map Value.inspect ++ accepted.kinds.map Kind.describe
      ++ if accepted.choices.isEmpty then [] else ["one of: " ++ accepted.quotedChoices])

end Alternatives

/-- What becomes of keys that a map node does not declare. A message is made from the undeclared
keys and the declared ones. -/
inductive UnknownKeys where
  | allow
  | reject (message : List String → List String → String)

/-- The shape of the value at one place: what is accepted there, the declared fields of a map, what
becomes of other keys, keys of which one must be present, and the shapes of items, of undeclared
values and of the value of a map that must hold a single entry. -/
inductive Schema where
  | node (accepted : Alternatives) (fields : List (String × Schema)) (unknownKeys : UnknownKeys)
    (requireAny : List String) (items values singleEntry : Option Schema)

namespace Schema

def accepted : Schema → Alternatives
  | .node accepted .. => accepted

def fields : Schema → Entries Schema
  | .node _ fields .. => fields

def fieldNames (schema : Schema) : List String :=
  Entries.keys schema.fields

def field? (schema : Schema) (name : String) : Option Schema :=
  Entries.get? schema.fields name

def describe (schema : Schema) : String :=
  schema.accepted.describe

def isException (schema : Schema) (value : Value) : Bool :=
  schema.accepted.isException value

def acceptsKind (schema : Schema) (value : Value) : Bool :=
  schema.accepted.acceptsKind value

/-- Accepts every value. -/
def any : Schema := .node .any [] .allow [] none none none

def ofKinds (kinds : List Kind) : Schema :=
  .node { Alternatives.any with kinds := kinds } [] .allow [] none none none

def ofKind (kind : Kind) : Schema := ofKinds [kind]

/-- Accepts the given strings as well. -/
def orChoices (schema : Schema) (choices : List String) : Schema :=
  match schema with
  | .node accepted fields unknownKeys requireAny items values singleEntry =>
    .node { accepted with choices := accepted.choices ++ choices }
      fields unknownKeys requireAny items values singleEntry

/-- Accepts only the given strings. -/
def ofChoices (choices : List String) : Schema := any.orChoices choices

/-- Accepts `false` as well, which stands for "disabled". -/
def orFalse (schema : Schema) : Schema :=
  match schema with
  | .node accepted fields unknownKeys requireAny items values singleEntry =>
    .node { accepted with exceptions := accepted.exceptions ++ [.bool false] }
      fields unknownKeys requireAny items values singleEntry

/-- Declares a field; a second declaration of a name takes the place of the first. -/
def withField (schema : Schema) (name : String) (field : Schema) : Schema :=
  match schema with
  | .node accepted fields unknownKeys requireAny items values singleEntry =>
    .node accepted (Entries.insert fields name field)
      unknownKeys requireAny items values singleEntry

/-- Declares fields in order. -/
def withFields (schema : Schema) (fields : List (String × Schema)) : Schema :=
  fields.foldl (fun schema (name, field) => schema.withField name field) schema

def unexpectedProps (unexpected allowed : List String) : String :=
  "Unexpected prop" ++ pluralEnding unexpected.length ++ ": "
    ++ String.intercalate ", " unexpected ++ " - valid props are: "
    ++ String.intercalate ", " allowed

/-- Rejects undeclared keys, with a message of its own. -/
def closedWith (schema : Schema) (message : List String → List String → String) : Schema :=
  match schema with
  | .node accepted fields _ requireAny items values singleEntry =>
    .node accepted fields (.reject message) requireAny items values singleEntry

def closed (schema : Schema) : Schema :=
  schema.closedWith unexpectedProps

/-- A map with a closed set of fields. -/
def record : Schema := (ofKind .object).closed

/-- Asks for one of the keys at least. -/
def requiringAny (schema : Schema) (keys : List String) : Schema :=
  match schema with
  | .node accepted fields unknownKeys _ items values singleEntry =>
    .node accepted fields unknownKeys keys items values singleEntry

/-- The shape of every item of an array. -/
def withItems (schema item : Schema) : Schema :=
  match schema with
  | .node accepted fields unknownKeys requireAny _ values singleEntry =>
    .node accepted fields unknownKeys requireAny (some item) values singleEntry

/-- The shape of every value under an undeclared key. -/
def withValues (schema value : Schema) : Schema :=
  match schema with
  | .node accepted fields unknownKeys requireAny items _ singleEntry =>
    .node accepted fields unknownKeys requireAny items (some value) singleEntry

/-- Asks maps for exactly one entry, of a kind that the given shape accepts. -/
def withSingleEntry (schema entry : Schema) : Schema :=
  match schema with
  | .node accepted fields unknownKeys requireAny items values _ =>
    .node accepted fields unknownKeys requireAny items values (some entry)

/-- Takes the place of the generated description. -/
def describedAs (schema : Schema) (description : String) : Schema :=
  match schema with
  | .node accepted fields unknownKeys requireAny items values singleEntry =>
    .node { accepted with description := some description }
      fields unknownKeys requireAny items values singleEntry

end Schema

end BuildConfig
