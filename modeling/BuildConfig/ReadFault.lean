import BuildConfig.Value

namespace BuildConfig

/-- Why a configuration cannot be read. -/
inductive ReadFault where
  | json
  | toml
  | tomlDate
  | unsupportedNumber (text : String)
  | pattern (source : String)

namespace ReadFault

/-- The place of a reader's own words about a fault, which are not part of its message. -/
def detail : String := "<detail>"

def message : ReadFault → String
  | .json => "JSON parsing error: " ++ detail
  | .toml => "TOML syntax error: " ++ detail
  | .tomlDate => "TOML parsing error: " ++ detail
  | .unsupportedNumber text => "Unsupported number: " ++ text
  | .pattern source => "Invalid regular expression /" ++ source ++ "/: " ++ detail

end ReadFault

end BuildConfig
