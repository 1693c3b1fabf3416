import ClassAtlas.Atlas
import ClassAtlas.Json.Parser

/-!
# Options of a run

Options say where classes are found, which may be mapped, where to start and
where to put the result. They are read from structured text, either at its top
or under the key of a section. What a run needs is checked before it starts.
-/

namespace ClassAtlas

structure Options where
  classPath : List String
  /-- Whitelisted classes, also the seeds when none are given. -/
  classes : List String
  packages : List String
  seeds : Option (List String)
  expandPackages : Bool
  includePlatform : Bool
  output : Option String
deriving DecidableEq

namespace Options

def default : Options where
  classPath := []
  classes := []
  packages := []
  seeds := none
  expandPackages := false
  includePlatform := true
  output := none

/-!
# Text
-/

def fieldNames : List String :=
  ["classpath", "classes", "packages", "seeds", "expandPackages", "includeJdk", "output"]

/-- The key of the section that options may sit under. -/
def sectionName : String :=
  "javamap"

/-- Every field may be left out; of a repeated one the last counts. -/
def ofJson? (value : Json) : Option Options := do
  match ← Json.fields? .lastCounts fieldNames value with
  | [classPath, classes, packages, seeds, expandPackages, includePlatform, output] =>
      return {
        classPath := ← Json.textList? classPath
        classes := ← Json.textList? classes
        packages := ← Json.textList? packages
        seeds := ← Json.optionalTextList? seeds
        expandPackages := ← Json.flag? expandPackages
        includePlatform := ← Json.orElse? true Json.bool? includePlatform
        output := ← Json.optionalText? output }
  | _ => none

def toJson (options : Options) : Json :=
  .object [
    ("classpath", Json.strings options.classPath),
    ("classes", Json.strings options.classes),
    ("packages", Json.strings options.packages),
    ("seeds", Json.ofOption Json.strings options.seeds),
    ("expandPackages", .bool options.expandPackages),
    ("includeJdk", .bool options.includePlatform),
    ("output", Json.ofOption .string options.output)]

def parse (text : String) : Except Cause Options :=
  let options? := do
    let value ← Json.parse? .inMemory text
    ofJson? ((value.member? sectionName).getD value)
  match options? with
  | some options => .ok options
  | none => .error .notJson

/-!
# Checking
-/

/-- The whitelist of the classes, then the packages; the first bad line fails. -/
def whitelist (options : Options) : Except Misconfiguration Whitelist := do
  let classes ← options.classes.mapM Whitelist.Rule.ofClass
  let packages ← options.packages.mapM Whitelist.Rule.ofPackage
  return Whitelist.ofRules (classes ++ packages)

def seedName (line : String) : Except Misconfiguration ClassName :=
  let name := ClassName.ofPath (String.ofList (Text.trim line.toList))
  if name.isWellFormed then .ok name else .error (.seedName line)

def seedNames (options : Options) : Except Misconfiguration (List ClassName) :=
  (options.seeds.getD options.classes).mapM seedName

def validate (options : Options) : Except Misconfiguration Unit := do
  let whitelist ← options.whitelist
  if whitelist.isEmpty then
    throw .emptyWhitelist
  let _ ← options.seedNames
  return ()

/-!
# Resolving
-/

def seeded (options : Options) (whitelist : Whitelist) (seeds : List ClassName)
    (source : ClassSource σ) (state : σ) : Except Cause Resolver × σ :=
  let resolver := Resolver.start.addSeeds seeds
  if options.expandPackages then
    match resolver.seedPackages whitelist source state with
    | (.ok _, expanded, later) => (.ok expanded, later)
    | (.error cause, _, later) => (.error cause, later)
  else (.ok resolver, state)

/-- The atlas that options describe, from a given source. -/
def resolve (options : Options) (source : ClassSource σ) (finite : source.Finite) (state : σ) :
    Except Failure Atlas × σ :=
  match options.whitelist with
  | .error fault => (.error (.plain (.misconfigured fault)), state)
  | .ok whitelist =>
      match options.seedNames with
      | .error fault => (.error (.plain (.misconfigured fault)), state)
      | .ok seeds =>
          match options.seeded whitelist seeds source state with
          | (.error cause, later) => (.error (.plain cause), later)
          | (.ok resolver, later) =>
              resolver.resolve whitelist source later
                (Resolver.ends_of_finite finite whitelist resolver.begin later)

end Options
end ClassAtlas
