import ClassAtlas.ClassName.Basic

/-!
# Spellings of nested classes

A nested class is stored under the name of its enclosing class, a dollar sign
and its own name, while a reference may spell it with a dot. The candidates for
a name start with the plain slashed path; each further one turns the last
slash into a dollar sign, as long as the segment before it looks like a class.
-/

namespace ClassAtlas
namespace ClassName

def lastSegment (path : List Char) : List Char :=
  match Text.splitLast? '/' path with
  | some (_, last) => last
  | none => path

def startsUpper : List Char → Bool
  | [] => false
  | c :: _ => c.isUpper

/-- A path and its respellings from the right, slashes first. -/
def respellings (path : List Char) : List (List Char) :=
  match _found : Text.splitLast? '/' path with
  | none => [path]
  | some (before, after) =>
      if startsUpper (lastSegment before) then
        path :: respellings (before ++ '$' :: after)
      else [path]
termination_by path.count '/'
decreasing_by
  rw [(Text.eq_append_of_splitLast? _found).left]
  simp [List.count_append]

/-- The stored paths to try for a name, in order. -/
def binaryNames (name : ClassName) : List String :=
  (respellings name.slashedChars).map String.ofList

end ClassName
end ClassAtlas
