import ClassAtlas.Counterpart
import ClassAtlas.Whitelist.Rule

/-!
# Whitelists

A whitelist decides which classes are mapped. It keeps each rule once, in the
order in which they first came, and also names the mapped classes: each by its
short name.
-/

namespace ClassAtlas

structure Whitelist where
  rules : List Whitelist.Rule

namespace Whitelist

def empty : Whitelist :=
  ⟨[]⟩

def insert (whitelist : Whitelist) (rule : Rule) : Whitelist :=
  if rule ∈ whitelist.rules then whitelist else ⟨whitelist.rules ++ [rule]⟩

def ofRules (rules : List Rule) : Whitelist :=
  rules.foldl insert empty

/-- A whitelist from configured lines; the first bad line decides the error. -/
def parse (lines : List String) : Except Misconfiguration Whitelist :=
  (lines.mapM Rule.parse).map ofRules

/-- Whether a rule admits the class of this name, dots taken as they stand. No rule
admits the empty name. -/
def admits (whitelist : Whitelist) (name : ClassName) : Bool :=
  name.text ≠ "" &&
    (.exact name ∈ whitelist.rules ||
      match Text.splitLast? '.' name.chars with
      | some (package, _ :: _) => .package (String.ofList package) ∈ whitelist.rules
      | _ => false)

def classes (whitelist : Whitelist) : List ClassName :=
  whitelist.rules.filterMap fun
    | .exact name => some name
    | .package _ => none

def packages (whitelist : Whitelist) : List String :=
  whitelist.rules.filterMap fun
    | .exact _ => none
    | .package name => some name

def isEmpty (whitelist : Whitelist) : Bool :=
  whitelist.rules.isEmpty

def registry (whitelist : Whitelist) : Registry :=
  fun name => if whitelist.admits name then some name.shortName else none

end Whitelist
end ClassAtlas
