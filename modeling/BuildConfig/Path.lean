namespace BuildConfig

/-- One step into a configuration tree. -/
inductive Segment where
  | key (name : String)
  | index (position : Nat)
  deriving DecidableEq

/-- The place of a value in a configuration tree. -/
structure Path where
  segments : List Segment
  deriving DecidableEq

namespace Path

/-- The place of the whole tree. -/
def root : Path := ⟨[]⟩

def ofKeys (keys : List String) : Path :=
  ⟨keys.map .key⟩

def key (path : Path) (name : String) : Path :=
  ⟨path.segments ++ [.key name]⟩

def index (path : Path) (position : Nat) : Path :=
  ⟨path.segments ++ [.index position]⟩

def isRoot (path : Path) : Bool :=
  path.segments.isEmpty

/-- A step after the first. -/
def stepText : Segment → String
  | .key name => "." ++ name
  | .index position => "[" ++ toString position ++ "]"

/-- Keys joined by dots and indexes in brackets; the root is called `config`. -/
def text (path : Path) : String :=
  match path.segments with
  | [] => "config"
  | .key name :: rest => name ++ String.join (rest.map stepText)
  | steps => String.join (steps.map stepText)

end Path

end BuildConfig
