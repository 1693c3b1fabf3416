import ClassAtlas.Text.Split

/-!
# Paths

A path is the text that names a file: steps between slashes, from the root if it
starts with a slash and from the working directory otherwise. Empty steps and
single dots change nothing, except that a dot may be all there is.
-/

namespace ClassAtlas
namespace Path

def isAbsolute (path : String) : Bool :=
  path.toList.head? = some '/'

def join (directory path : String) : String :=
  if isAbsolute path then path
  else
    match directory.toList.getLast? with
    | none | some '/' => directory ++ path
    | some _ => directory ++ "/" ++ path

/-- A path takes less than 4096 bytes. -/
def isTooLong (path : String) : Bool :=
  4096 ≤ path.utf8ByteSize

/-- The name in a step takes at most 255 bytes. -/
def isStepTooLong (step : List Char) : Bool :=
  255 < (String.ofList step).utf8ByteSize

def isIdle (step : List Char) : Bool :=
  step = [] || step = ['.']

/-- The paths that end with one of the steps, given last step first, and the one
before all of them. -/
def prefixes (first : List Char) : List (List Char) → List String
  | [] => if first.isEmpty then ["/"] else [String.ofList first]
  | last :: before =>
      if isIdle last then prefixes first before
      else
        String.ofList (['/'].intercalate (first :: (last :: before).reverse)) ::
          prefixes first before

/-- The path and the directories it passes through, from the inside out. -/
def ancestors (path : String) : List String :=
  if path.isEmpty then []
  else
    match path.toList.splitOn '/' with
    | [] => []
    | first :: steps => prefixes first steps.reverse

def parent? (path : String) : Option String :=
  match ancestors path with
  | _ :: outer :: _ => some outer
  | [_] => if isAbsolute path then none else some ""
  | [] => none

/-- The part of a file name after its last dot; the dot at the start of a name
begins no extension. -/
def extension? (name : String) : Option String :=
  match Text.splitLast? '.' name.toList with
  | some (_ :: _, last) => some (String.ofList last)
  | _ => none

end Path
end ClassAtlas
