import BuildConfig.Report
import BuildConfig.Schema

namespace BuildConfig

/-- What the alternatives of a place say about a value: it passes as it is, it is rejected with a
message and perhaps a choice that was meant, or it has to be looked into. -/
inductive Verdict where
  | passes
  | rejected (message : String) (meant : Option String)
  | lookInside

namespace Alternatives

def kindMessage (accepted : Alternatives) : String :=
  "Must be " ++ accepted.describe

def choiceMessage (accepted : Alternatives) : String :=
  if accepted.kinds.isEmpty && accepted.exceptions.isEmpty then
    "Must be one of: " ++ accepted.quotedChoices
  else accepted.kindMessage

/-- A value that is no exception, judged by its kind. -/
def kindVerdict (accepted : Alternatives) (value : Value) : Verdict :=
  if accepted.kinds.isEmpty || accepted.matchesKind value then .lookInside
  else .rejected accepted.kindMessage none

/-- Exceptions pass first. Where there are choices and strings are not accepted as such, a string
has to be one of the choices. -/
def verdict (accepted : Alternatives) (value : Value) : Verdict :=
  if accepted.isException value then .passes
  else if accepted.choices.isEmpty || accepted.kinds.contains .string then
    accepted.kindVerdict value
  else
    match value with
    | .string text =>
      if accepted.choices.contains text then .passes
      else .rejected accepted.choiceMessage (suggestSimilar text accepted.choices)
    | _ =>
      if accepted.kinds.isEmpty && accepted.exceptions.isEmpty then
        .rejected accepted.choiceMessage none
      else accepted.kindVerdict value

end Alternatives

namespace Schema

def rejection (path : Path) (value : Value) (message : String) (meant : Option String) :
    List Finding :=
  .problem ⟨path, value, message⟩ :: match meant with
    | some choice => [.hint ⟨path, ["Did you mean '" ++ choice ++ "'?"]⟩]
    | none => []

/-- Undeclared keys are reported once for the whole map. -/
def unknownKeyFindings (unknownKeys : UnknownKeys) (declared : List String) (path : Path)
    (entries : Entries Value) : List Finding :=
  let unexpected := (Entries.keys entries).filter fun key => !declared.contains key
  match unknownKeys with
  | .allow => []
  | .reject message =>
    if unexpected.isEmpty then []
    else [.problem ⟨path, .map entries, message unexpected declared⟩]

def requiredKeyFindings (requireAny : List String) (path : Path) (entries : Entries Value) :
    List Finding :=
  if requireAny.isEmpty || requireAny.any (Entries.contains entries) then []
  else [.problem ⟨path, .map entries, "Must include " ++ joinOr requireAny⟩]

mutual

/-- Everything that is wrong with a value at a path. A map is looked at as a whole, then field by
field in the order of their declaration, then at its undeclared keys; a map of a single entry is
only judged as a whole. -/
def findings : Schema → Path → Value → List Finding
  | .node accepted fields unknownKeys requireAny items values singleEntry, path, value =>
    match accepted.verdict value with
    | .passes => []
    | .rejected message meant => rejection path value message meant
    | .lookInside =>
      match value with
      | .map entries =>
        match singleEntry with
        | some entry =>
          match entries with
          | [(_, only)] =>
            if entry.acceptsKind only then []
            else rejection path value accepted.kindMessage none
          | _ => rejection path value accepted.kindMessage none
        | none =>
          unknownKeyFindings unknownKeys (Entries.keys fields) path entries
            ++ requiredKeyFindings requireAny path entries
            ++ fieldFindings fields path entries
            ++ match values with
              | some undeclared =>
                entries.flatMap fun (key, child) =>
                  if Entries.contains fields key then []
                  else undeclared.findings (path.key key) child
              | none => []
      | .array members =>
        match items with
        | some item =>
          members.zipIdx.flatMap fun (member, position) =>
            item.findings (path.index position) member
        | none => []
      | _ => []

/-- What is wrong below the declared fields. A null counts as absent. -/
def fieldFindings : List (String × Schema) → Path → Entries Value → List Finding
  | [], _, _ => []
  | (name, field) :: rest, path, entries =>
    (match Entries.get? entries name with
      | none => []
      | some .null => []
      | some child => field.findings (path.key name) child) ++ fieldFindings rest path entries

end

end Schema

namespace Report

/-- Checks a value at a path and adds what is found. -/
def check (report : Report) (schema : Schema) (path : Path) (value : Value) : Report :=
  report.addAll (schema.findings path value)

/-- Checks a whole tree. -/
def validate (report : Report) (schema : Schema) (config : Value) : Report :=
  report.check schema .root config

end Report

end BuildConfig
