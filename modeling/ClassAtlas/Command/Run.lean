import ClassAtlas.ClassPath.Source
import ClassAtlas.Command.Basic
import ClassAtlas.Inspection
import ClassAtlas.Options.ClassPath
import ClassAtlas.Options.File
import ClassAtlas.Source.Snapshot
import ClassAtlas.Summary

/-!
# Running commands

A command reads files and ends with a code, two texts and perhaps a file written.
A failure puts its message into the second text and sets the code to one.
-/

namespace ClassAtlas

structure Outcome where
  code : Nat
  output : String
  errors : String
  files : FileSystem
  written : Option String

namespace Outcome

def success (files : FileSystem) (output : String) : Outcome where
  code := 0
  output := output
  errors := ""
  files := files
  written := none

/-- A failure, with what was put out before it. -/
def failed (files : FileSystem) (output message : String) : Outcome where
  code := 1
  output := output
  errors := "error: " ++ message ++ "\n"
  files := files
  written := none

def misuse (files : FileSystem) : Outcome where
  code := 2
  output := ""
  errors := "usage: javamap (translate | check | resolve) [options]\n"
  files := files
  written := none

end Outcome

namespace Command

def versionLine : String :=
  "javamap 0.3.0\n"

/-!
# Inspecting
-/

def descriptorTable (reports : List DescriptorReport) : Table where
  header := ["Descriptor", "TypeScript"]
  rows := reports.map fun report => [report.descriptor, report.text]

def nameTable (reports : List NameReport) : Table where
  header := ["Class", "Whitelisted", "Path", "Alias"]
  rows := reports.map fun report =>
    [report.name.text, if report.whitelisted then "true" else "false", report.fixedPath,
      report.aliasName]

/-- The whitelist of an options file, or the one that admits nothing. -/
def configuredWhitelist (files : FileSystem) : Option String → Except Cause Whitelist
  | none => .ok (.ofRules [])
  | some path => do
      let options ← Options.load files path
      options.whitelist.mapError .misconfigured

/-- The table is put out also when some descriptors cannot be translated. -/
def runTranslate (files : FileSystem) (position : Position) (config : Option String)
    (descriptors : List String) : Outcome :=
  match configuredWhitelist files config with
  | .error cause => .failed files "" cause.message
  | .ok whitelist =>
      let reports := descriptors.map (reportDescriptor whitelist.registry position)
      let table := (descriptorTable reports).render ++ "\n"
      let failures := (reports.filter DescriptorReport.failed).length
      if failures = 0 then .success files table
      else
        .failed files table
          (toString failures ++ " of " ++ toString reports.length ++
            " descriptors could not be translated")

def loadValid (files : FileSystem) (config : String) : Except Cause Options := do
  let options ← Options.load files config
  options.validate.mapError .misconfigured
  return options

def runCheck (files : FileSystem) (config : String) (names : List String) : Outcome :=
  let reports := do
    let options ← loadValid files config
    let whitelist ← options.whitelist.mapError .misconfigured
    return names.map whitelist.reportName
  match reports with
  | .error cause => .failed files "" cause.message
  | .ok reports => .success files ((nameTable reports).render ++ "\n")

/-!
# Resolving
-/

def loadSnapshot (files : FileSystem) (path : String) : Except Cause Snapshot :=
  match files.readText path with
  | .error error => .error (.file error)
  | .ok text => Snapshot.parse text

def resolveAtlas (files : FileSystem) (environment : Environment) (options : Options) :
    Option String → Except Failure Atlas
  | some path => do
      let snapshot ← (loadSnapshot files path).mapError .plain
      (options.resolve snapshot.source snapshot.finite_source []).1
  | none => do
      let classPath ← (options.openClassPath files environment).mapError fun error =>
        .plain error.toCause
      (options.resolve (classPath.source files) (classPath.finite_source files) ()).1

def writtenLine (atlas : Atlas) (path : String) : String :=
  toString atlas.classes.length ++ " classes, " ++ toString atlas.missing.length ++
    " missing, written to " ++ path ++ "\n"

def deliver (files : FileSystem) (atlas : Atlas) : Option String → Outcome
  | none => .success files (atlas.render ++ "\n")
  | some path =>
      match files.writeWithin path atlas.render.toUTF8 with
      | .error error => .failed files "" (Cause.file error).message
      | .ok after =>
          { Outcome.success after (atlas.summary.render ++ "\n" ++ writtenLine atlas path) with
            written := some path }

def runResolve (files : FileSystem) (environment : Environment) (config : String)
    (output snapshot : Option String) : Outcome :=
  match loadValid files config with
  | .error cause => .failed files "" cause.message
  | .ok options =>
      match resolveAtlas files environment options snapshot with
      | .error failure => .failed files "" failure.message
      | .ok atlas => deliver files atlas (output.orElse fun _ => options.output)

def run (files : FileSystem) (environment : Environment) : Command → Outcome
  | version => .success files versionLine
  | translate position config descriptors => runTranslate files position config descriptors
  | check config names => runCheck files config names
  | resolve config output snapshot => runResolve files environment config output snapshot

end Command
end ClassAtlas
