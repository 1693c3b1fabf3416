import ClassAtlas.SourceType.Basic
import ClassAtlas.Text.Blank

/-!
# Reading types

A type is read from any of its spellings: a keyword, a class name, a class
descriptor, an array descriptor, or a name followed by pairs of brackets.
Generic arguments are erased first.
-/

namespace ClassAtlas
namespace SourceType

/-- Drops every group in angle brackets; fails when they do not balance. The
count is the number of groups that are open. -/
def eraseGenerics : Nat → List Char → Option (List Char)
  | 0, [] => some []
  | _ + 1, [] => none
  | 0, c :: rest =>
      if c = '<' then eraseGenerics 1 rest
      else if c = '>' then none
      else (eraseGenerics 0 rest).map (c :: ·)
  | opened + 1, c :: rest =>
      if c = '<' then eraseGenerics (opened + 2) rest
      else if c = '>' then eraseGenerics opened rest
      else eraseGenerics (opened + 1) rest

def plain? (text : List Char) : Option ElementType :=
  match Primitive.ofKeyword? (String.ofList text) with
  | some type => some (.primitive type)
  | none => (ClassName.ofWellFormed? text).map .object

def wrapped? (text : List Char) : Option (List Char) :=
  (Text.afterStart? ['L'] text).bind (Text.beforeEnd? [';'])

def notVoid? (element : ElementType) : Option ElementType :=
  if element = .primitive .void then none else some element

def arrayElement? : List Char → Option ElementType
  | [letter] => ((Primitive.ofCode? letter).map .primitive).bind notVoid?
  | text => ((wrapped? text).bind ClassName.ofWellFormed?).map .object

/-- The pairs of brackets a text ends with, counted on the reversed text, and the
reversed rest. -/
def countBrackets : List Char → Nat × List Char
  | ']' :: '[' :: rest =>
      let (count, base) := countBrackets rest
      (count + 1, base)
  | text => (0, text)

def parseErased? (text : List Char) : Option SourceType :=
  if text.head? = some '[' then
    (arrayElement? (text.dropWhile (· = '['))).map fun element =>
      ⟨element, (text.takeWhile (· = '[')).length⟩
  else
    let (count, base) := countBrackets text.reverse
    if count = 0 then
      match wrapped? text with
      | some inner => (ClassName.ofWellFormed? inner).map object
      | none => (plain? text).map fun element => ⟨element, 0⟩
    else
      ((plain? (base.dropWhile Text.isBlank).reverse).bind notVoid?).map fun element =>
        ⟨element, count⟩

def parse? (raw : String) : Option SourceType :=
  (eraseGenerics 0 (Text.trim raw.toList)).bind parseErased?

end SourceType
end ClassAtlas
