import BuildConfig.CommandLine.Run
import BuildConfig.Pattern.Reader

namespace BuildConfig

/-- The usage of the command line. -/
def usage : String :=
  "Usage: sprout [-v] <command>\n\n"
    ++ "Commands:\n"
    ++ "  check-config        Check the project's config and report problems\n"
    ++ "  config [COMMAND]    Print the final config a command would use, as JSON\n"
    ++ "  test-plugins        Print the resolved test-runner plugins\n\n"
    ++ "Options of all commands:\n"
    ++ "  --config PATH, --type TYPE, --umd GLOBAL, --es-modules [BOOL], --browsers LIST,\n"
    ++ "  --host HOST, --port PORT, --keep-proptypes, --open, --no-hmr, --inferno, --preact\n\n"
    ++ "Options of test-plugins:\n"
    ++ "  --coverage, --full\n"

/-- The names on a path, with steps to the parent directory taken. -/
def plainNames (path : String) : List String :=
  (pathNames path.toList).foldl (fun names name =>
    if name = "" ∨ name = "." then names
    else if name = ".." then names.dropLast
    else names ++ [name]) []

/-- Adds what is found along a path, from the root of the file system on. -/
def see (files : Workspace) (path : String) : IO Workspace := do
  let here ← IO.currentDir
  let names := plainNames (files.pathOf path)
  let mut children := files.children
  for count in List.range names.length do
    let known := names.take (count + 1)
    let place := here / ("/" ++ String.intercalate "/" known)
    if ← place.isDir then
      if (FileNode.follow [] (.directory children) known).toOption.isNone then
        children := (FileNode.directory []).place known children
    else if ← place.pathExists then
      let bytes ← IO.FS.readBinFile place
      children := (FileNode.file (String.fromUTF8? bytes)).place known children
      break
    else break
  return { files with children := children }

/-- Everything that a run with the flags can look at. -/
def survey (flags : ConfigFlags) : IO Workspace := do
  let here ← IO.currentDir
  let mut files : Workspace := ⟨"", [], here.toString⟩
  for path in "package.json" :: configFileNames ++ flags.config.toList do
    files ← see files path
  match files.read (files.pathOf "package.json") with
  | .ok text =>
    match PackageManifest.read text with
    | .ok manifest =>
      for name in Workspace.pluginNames manifest do
        files ← see files (files.pluginManifestPath name)
    | .error _ => pure ()
  | .error _ => pure ()
  return files

/-- Colours are for terminals, unless they are switched off. -/
def detectPalette : IO Palette := do
  if (← IO.getEnv "NO_COLOR").isSome then return ⟨false⟩
  return ⟨(← (← IO.getStderr).isTty) && (← (← IO.getStdout).isTty)⟩

end BuildConfig

open BuildConfig in
def main (arguments : List String) : IO UInt32 := do
  match CommandLine.read? arguments with
  | none =>
    IO.eprint usage
    return 2
  | some .version =>
    IO.print versionLine
    return 0
  | some .help =>
    IO.print usage
    return 0
  | some (.run command flags) =>
    let outcome := command.run Pattern.isValid (← detectPalette) (← survey flags) flags
    IO.eprint outcome.messages
    IO.print outcome.output
    return outcome.exitCode.toUInt32
