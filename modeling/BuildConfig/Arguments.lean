import BuildConfig.Value.Edit

namespace BuildConfig

/-- A command line as the compiler sees it: positional arguments, the first being the command, and
the values of flags by their long names. -/
structure Arguments where
  positional : List String
  flags : Entries Value

namespace Arguments

def empty : Arguments := ⟨[], []⟩

def withFlag (args : Arguments) (name : String) (value : Value) : Arguments :=
  { args with flags := Entries.insert args.flags name value }

def command? (args : Arguments) : Option String :=
  args.positional.head?

def flag? (args : Arguments) (name : String) : Option Value :=
  Entries.get? args.flags name

def flagText? (args : Arguments) (name : String) : Option String :=
  (args.flag? name).bind Value.asString?

/-- The flag is set to true. -/
def isEnabled (args : Arguments) (name : String) : Bool :=
  (args.flag? name).bind Value.asBool? == some true

/-- The flag is set to false. -/
def isDisabled (args : Arguments) (name : String) : Bool :=
  (args.flag? name).bind Value.asBool? == some false

/-- The tree that configuration functions are given: the positional arguments under `_`, then the
flags. A flag of that very name takes the place of the positional arguments. -/
def toValue (args : Arguments) : Value :=
  .map (args.flags.foldl (fun entries (name, value) => Entries.insert entries name value)
    [("_", .array (args.positional.map .string))])

end Arguments

end BuildConfig
