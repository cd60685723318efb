import BuildConfig.Main
import BuildConfig.Proofs.Related
import BuildConfig.Proofs.Entries.Lookup
import BuildConfig.Proofs.Value.Trees
import BuildConfig.Proofs.Value.Alike
import BuildConfig.Proofs.Value.AlikeEdits
import BuildConfig.Proofs.Value.Walks
import BuildConfig.Proofs.Value.Apart
import BuildConfig.Proofs.Value.Edits
import BuildConfig.Proofs.Value.Frame
import BuildConfig.Proofs.Findings
import BuildConfig.Proofs.Canonical
import BuildConfig.Proofs.Canonical.Untouched
import BuildConfig.Proofs.Canonical.Moves
import BuildConfig.Proofs.Schema.Verdicts
import BuildConfig.Proofs.Schema.Conformance
import BuildConfig.Proofs.Schema.UserSchema
import BuildConfig.Proofs.Schema.Acceptance
import BuildConfig.Proofs.Schema.DeclaredPaths
import BuildConfig.Proofs.Schema.KeyOrder
import BuildConfig.Proofs.Schema.Parts
import BuildConfig.Proofs.Schema.Relocation
import BuildConfig.Proofs.Schema.Diagnostics
import BuildConfig.Proofs.Schema.FreedField
import BuildConfig.Proofs.Schema.Described
import BuildConfig.Proofs.Schema.NullEntries
import BuildConfig.Proofs.Merge.Lookup
import BuildConfig.Proofs.Merge.Conformance
import BuildConfig.Proofs.Merge.Precedence
import BuildConfig.Proofs.Merge.Paths
import BuildConfig.Proofs.Merge.Lists
import BuildConfig.Proofs.Merge.Reapplication
import BuildConfig.Proofs.Hoist.Lookup
import BuildConfig.Proofs.Hoist.Conformance
import BuildConfig.Proofs.Hoist.Alike
import BuildConfig.Proofs.Hoist.Places
import BuildConfig.Proofs.Hoist.FixedPoints
import BuildConfig.Proofs.Hoist.RuleParts
import BuildConfig.Proofs.Hoist.MovedLoaders
import BuildConfig.Proofs.Compile.Layers
import BuildConfig.Proofs.Compile.Settings
import BuildConfig.Proofs.Compile.Runs
import BuildConfig.Proofs.Compile.Closure
import BuildConfig.Proofs.Compile.Precedence
import BuildConfig.Proofs.Compile.KeyOrder
import BuildConfig.Proofs.Compile.Commands
import BuildConfig.Proofs.Compile.Places
import BuildConfig.Proofs.Compile.ProjectType
import BuildConfig.Proofs.Compile.Presets
import BuildConfig.Proofs.Compile.StyleRules
import BuildConfig.Proofs.Json.DistinctKeys
import BuildConfig.Proofs.Toml.DistinctKeys
import BuildConfig.Proofs.CommandLine.Runs
import BuildConfig.Proofs.Compile.Namespaces
import BuildConfig.Proofs.TestRunner.BuiltIns
import BuildConfig.Proofs.TestRunner.Entries
import BuildConfig.Proofs.TestRunner.Composition
import BuildConfig.Proofs.Canonical.Spellings
import BuildConfig.Proofs.Compile.Spellings
import BuildConfig.Proofs.Canonical.FixedPoints
import BuildConfig.Proofs.Canonical.Accepted
import BuildConfig.Proofs.Canonical.Surroundings
import BuildConfig.Proofs.CommandLine.Overrides
import BuildConfig.Proofs.Schema.MorePlugins
import BuildConfig.Proofs.Entries.KeyOrder
import BuildConfig.Proofs.TestRunner.Extra
import BuildConfig.Proofs.Preprocessors
import BuildConfig.Proofs.Workspace.Plugins
import BuildConfig.Proofs.Json.Patterns
import BuildConfig.Proofs.Json.RoundTrip
import BuildConfig.Proofs.Toml.Agreement
import BuildConfig.Proofs.Wording.Edits
import BuildConfig.Proofs.Wording.DistanceTable
import BuildConfig.Proofs.Wording.Metric
import BuildConfig.Proofs.Wording.Suggestions
import BuildConfig.Proofs.Schema.Hints
import BuildConfig.Proofs.Value.EditLaws
import BuildConfig.Proofs.Palette
import BuildConfig.Proofs.Number.Rounding
import BuildConfig.Proofs.Number.Shortest
import BuildConfig.Proofs.Number.Nearest
import BuildConfig.Proofs.Number.Text
import BuildConfig.Proofs.Number.Reading
import BuildConfig.Proofs.Value.Inspect
import BuildConfig.Proofs.Path
