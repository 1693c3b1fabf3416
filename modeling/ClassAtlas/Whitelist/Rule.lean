import ClassAtlas.Failure.Basic
import ClassAtlas.Text.Blank

/-!
# Whitelist rules

A rule admits one class or every class directly inside one package. Rules are
read from configured lines, trimmed and with slashes taken for dots.
-/

namespace ClassAtlas

namespace Whitelist

inductive Rule where
  | exact (name : ClassName)
  | package (name : String)
deriving DecidableEq

namespace Rule

def ofClass (line : String) : Except Misconfiguration Rule :=
  let name := ClassName.ofPath (String.ofList (Text.trim line.toList))
  if name.isWellFormed && name.package?.isSome then .ok (.exact name)
  else .error (.className line)

/-- A package line without the marks that may end it: `pkg`, `pkg.` and `pkg.*`. -/
def withoutMark (line : List Char) : List Char :=
  match Text.beforeEnd? ['.', '*'] line with
  | some stem => stem
  | none => (Text.beforeEnd? ['.'] line).getD line

def ofPackage (line : String) : Except Misconfiguration Rule :=
  let name := ClassName.ofPath (String.ofList (withoutMark (Text.trim line.toList)))
  if name.isWellFormed then .ok (.package name.text) else .error (.packageName line)

/-- A line that ends in `.*` names a package, any other line a class. -/
def parse (line : String) : Except Misconfiguration Rule :=
  if (Text.beforeEnd? ['.', '*'] (Text.trim line.toList)).isSome then ofPackage line
  else ofClass line

end Rule
end Whitelist
end ClassAtlas
