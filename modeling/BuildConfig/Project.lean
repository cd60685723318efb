namespace BuildConfig

/-- The kinds of project that have defaults of their own. -/
inductive ProjectType where
  | reactApp
  | reactComponent
  | preactApp
  | infernoApp
  | webApp
  | webModule
  deriving DecidableEq

namespace ProjectType

def all : List ProjectType :=
  [.reactApp, .reactComponent, .preactApp, .infernoApp, .webApp, .webModule]

def name : ProjectType → String
  | .reactApp => "react-app"
  | .reactComponent => "react-component"
  | .preactApp => "preact-app"
  | .infernoApp => "inferno-app"
  | .webApp => "web-app"
  | .webModule => "web-module"

def ofName? (name : String) : Option ProjectType :=
  all.find? fun type => type.name == name

end ProjectType

/-- The kind of output that a command produces. -/
inductive BuildMode where
  | development
  | production
  | test
  deriving DecidableEq

namespace BuildMode

def name : BuildMode → String
  | .development => "development"
  | .production => "production"
  | .test => "test"

def ofName? (name : String) : Option BuildMode :=
  [development, production, test].find? fun mode => mode.name == name

/-- Commands that start with `build` are for production and those that start with `test` for tests;
everything else is development. -/
def ofCommand (command : String) : BuildMode :=
  if command.startsWith "build" then .production
  else if command.startsWith "test" then .test
  else .development

end BuildMode

end BuildConfig
