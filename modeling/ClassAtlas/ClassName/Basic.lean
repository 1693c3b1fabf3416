import ClassAtlas.ClassName.Reserved
import ClassAtlas.Text.Identifier
import ClassAtlas.Text.Split

/-!
# Class names

A class name is a dotted path such as `java.util.Iterator`. Nested classes keep
their dollar sign. Names that come from a binary form have slashes instead of
dots and are made dotted on construction; names read from metadata are taken as
they are.
-/

namespace ClassAtlas

structure ClassName where
  text : String
deriving DecidableEq

namespace ClassName

def ofChars (chars : List Char) : ClassName :=
  ⟨String.ofList chars⟩

def ofPath (path : String) : ClassName :=
  ofChars (path.toList.map fun c => if c = '/' then '.' else c)

def chars (name : ClassName) : List Char :=
  name.text.toList

/-- The slashed form that class files use. -/
def slashedChars (name : ClassName) : List Char :=
  name.chars.map fun c => if c = '.' then '/' else c

def internalName (name : ClassName) : String :=
  String.ofList name.slashedChars

def segments (name : ClassName) : List (List Char) :=
  name.chars.splitOn '.'

def shortName (name : ClassName) : String :=
  match Text.splitLast? '.' name.chars with
  | some (_, last) => String.ofList last
  | none => name.text

def package? (name : ClassName) : Option String :=
  (Text.splitLast? '.' name.chars).map fun (package, _) => String.ofList package

def isWellFormed (name : ClassName) : Bool :=
  name.segments.all Text.isIdentifier

def ofWellFormed? (path : List Char) : Option ClassName :=
  let name := ofPath (String.ofList path)
  if name.isWellFormed then some name else none

def escapedPath (segments : List (List Char)) : String :=
  String.ofList (['.'].intercalate (segments.map escapeSegment))

/-- The path with every segment that is a reserved word escaped. -/
def fixedPath (name : ClassName) : String :=
  escapedPath name.segments

def quotedPackage (name : ClassName) : String :=
  match Text.splitLast? '.' name.chars with
  | some (package, _) => escapedPath (package.splitOn '.')
  | none => ""

/-- The whole path as a single identifier. -/
def aliasName (name : ClassName) : String :=
  String.ofList (['_'].intercalate
    (name.segments.map fun segment => segment.map fun c => if c = '$' then '_' else c))

def object : ClassName :=
  ⟨"java.lang.Object"⟩

end ClassName
end ClassAtlas
