import ClassAtlas.Files.FileSystem
import ClassAtlas.Text.Numeric

/-!
# Installed platforms

A platform brings the classes of the runtime library: in one runtime image, in
one archive, or in packed modules. The first one found is used. Its version
stands in a file of its own, or else may show in its path.
-/

namespace ClassAtlas

structure Environment where
  home : Option String
  platformHome : Option String

structure Platform where
  root : String
  /-- The files that hold its classes, never none. -/
  assets : List String
  version : Option String

namespace Platform

/-!
# Assets
-/

def sorted (names : List String) : List String :=
  names.mergeSort fun left right => left ≤ right

def packedModules (files : FileSystem) (root : String) : List String :=
  let place := Path.join root "jmods"
  let names := (files.childNames place).filter fun name => Path.extension? name = some "jmod"
  (sorted names).map (Path.join place)

/-- The files that can each hold the whole library, the newest form first. -/
def libraries (root : String) : List String :=
  ["lib/modules", "jre/lib/rt.jar", "lib/rt.jar"].map (Path.join root)

def assetsAt (files : FileSystem) (root : String) : List String :=
  if files.isPresent root then
    match (libraries root).find? files.isFile with
    | some library => [library]
    | none => packedModules files root
  else []

/-!
# Versions
-/

/-- The lines of a text. A line end may come with a carriage return before it. -/
def lines : List (List Char) → List (List Char)
  | [] => []
  | [last] => [last]
  | line :: rest => (Text.beforeEnd? ['\r'] line).getD line :: lines rest

def versionKey : List Char :=
  ['J', 'A', 'V', 'A', '_', 'V', 'E', 'R', 'S', 'I', 'O', 'N', '=']

/-- The text behind a key, however often that comes at the start. -/
def behindKeys (text : List Char) : List Char :=
  match _found : Text.afterStart? versionKey text with
  | none => text
  | some rest => behindKeys rest
termination_by text.length
decreasing_by
  rw [Text.afterStart?_eq_some_iff.mp _found, List.length_append]
  exact Nat.lt_add_of_pos_left (by decide)

def withoutQuotes (text : List Char) : List Char :=
  ((text.dropWhile (· = '"')).reverse.dropWhile (· = '"')).reverse

def statedVersion? (release : String) : Option String :=
  ((lines (release.toList.splitOn '\n')).find? fun line =>
    (Text.afterStart? versionKey line).isSome).map fun line =>
      String.ofList (withoutQuotes (behindKeys line))

def leadingNumbers : List Char → List Char
  | [] => []
  | c :: rest =>
      if Text.isDecimal c then c :: leadingNumbers rest
      else
        match c, rest with
        | '.', next :: _ => if Text.isDecimal next then c :: leadingNumbers rest else []
        | _, _ => []

def startsWithNumber : List Char → Bool
  | [] => false
  | c :: _ => Text.isDecimal c

/-- The version behind `jdk` or `jdk-` at the start of a text. -/
def versionAtStart? (text : List Char) : Option (List Char) :=
  match Text.afterStart? "jdk".toList text with
  | none => none
  | some rest =>
      let rest := (Text.afterStart? ['-'] rest).getD rest
      if startsWithNumber rest then some (leadingNumbers rest) else none

def shownVersion? : List Char → Option (List Char)
  | [] => none
  | c :: rest => (versionAtStart? (c :: rest)).orElse fun _ => shownVersion? rest

def versionAt (files : FileSystem) (root : String) : Option String :=
  let stated :=
    match files.readText (Path.join root "release") with
    | .ok release => statedVersion? release
    | .error _ => none
  stated.orElse fun _ => (shownVersion? root.toList).map String.ofList

/-!
# Discovery
-/

def at? (files : FileSystem) (root : String) : Option Platform :=
  match assetsAt files root with
  | [] => none
  | assets => some { root, assets, version := versionAt files root }

def searchRoots (environment : Environment) : List String :=
  "/usr/lib/jvm/" ::
    match environment.home with
    | none | some "" => []
    | some home => [Path.join home ".sdkman/candidates/java/"]

def withChildren (files : FileSystem) (root : String) : List String :=
  root :: (sorted (files.childNames root)).map (Path.join root)

/-- The first platform: where the environment says, else in one of the usual
places. -/
def discover (files : FileSystem) (environment : Environment) : Option Platform :=
  (environment.platformHome.toList ++
    (searchRoots environment).flatMap (withChildren files)).findSome? (at? files)

end Platform
end ClassAtlas
