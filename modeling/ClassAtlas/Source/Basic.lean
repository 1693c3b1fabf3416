import ClassAtlas.Entry.Mentions

/-!
# Class sources

A source answers requests for declarations and lists packages. It may keep a
state of its own and fail at any request, so each answer comes with the state
after it. A source is finite when all names in its answers come from one list;
whatever is stored in files or in memory is.
-/

namespace ClassAtlas

structure ClassSource (σ : Type) where
  load : ClassName → σ → Except LoadError ClassDecl × σ
  list : String → σ → Except LoadError (List ClassName) × σ

namespace ClassSource

structure Finite (source : ClassSource σ) : Prop where
  bounded : ∃ known : List ClassName, ∀ name state decl later,
    source.load name state = (.ok decl, later) → ∀ other ∈ decl.mentioned, other ∈ known

def withoutListing (source : ClassSource σ) : ClassSource σ where
  load := source.load
  list := fun _ state => (.ok [], state)

/-- The entry of a class that a source answers with. The answer must be for the
class that was asked for. -/
def build (source : ClassSource σ) (whitelist : Whitelist) (resolved : List ClassName)
    (name : ClassName) (state : σ) : Except Cause (ClassEntry × List ClassName) × σ :=
  match source.load name state with
  | (.error error, later) => (.error (Cause.ofLoadError error), later)
  | (.ok decl, later) =>
      if decl.name = name then (decl.build whitelist resolved, later)
      else (.error (Cause.ofLoadError (.malformed name (.answersWith decl.name))), later)

/-- The classes of several packages; the first failure ends the listing. -/
def listAll (source : ClassSource σ) : List String → σ → Except LoadError (List ClassName) × σ
  | [], state => (.ok [], state)
  | package :: rest, state =>
      match source.list package state with
      | (.error error, later) => (.error error, later)
      | (.ok names, later) =>
          match source.listAll rest later with
          | (.error error, last) => (.error error, last)
          | (.ok others, last) => (.ok (names ++ others), last)

end ClassSource
end ClassAtlas
