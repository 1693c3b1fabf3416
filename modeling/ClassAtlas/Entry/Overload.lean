import ClassAtlas.Entry.Basic

/-!
# Grouping overloads

Methods of one name are put together by their number of parameters. A group is
told apart by type when every two of its members first differ at a position
where no argument fits both; otherwise it is a union. Groups come by ascending
least number of arguments.
-/

namespace ClassAtlas

namespace Overload

/-- The first position where two parameter lists differ, if it tells them apart. -/
def divergence? : List TargetType → List TargetType → Option Nat
  | left :: lefts, right :: rights =>
      if left = right then (divergence? lefts rights).map (· + 1)
      else if left.separates right then some 0
      else none
  | _, _ => none

def pairs : List α → List (α × α)
  | [] => []
  | first :: rest => rest.map (fun later => (first, later)) ++ pairs rest

/-- The least position that tells two methods apart, if all pairs are told apart. -/
def separation? (methods : List MethodEntry) : Option Nat :=
  ((pairs methods).mapM fun pair =>
    divergence? pair.1.targetParams pair.2.targetParams).bind List.min?

def group (arity : Nat) : List MethodEntry → OverloadGroup
  | [only] => .single arity only
  | methods =>
      match separation? methods with
      | some position => .byType arity position methods
      | none => .union arity methods

def groupMethods (methods : List MethodEntry) : List OverloadGroup :=
  sortByRank OverloadGroup.minArity
    ((grouped MethodEntry.arity methods).map fun (arity, members) => group arity members)

def groupByName (methods : List MethodEntry) : List (String × List OverloadGroup) :=
  (grouped MethodEntry.name methods).map fun (name, members) => (name, groupMethods members)

end Overload
end ClassAtlas
