import ClassAtlas.Closure.Turn

/-!
# Running a resolver to its end

A run takes turns until nothing waits, then drops the missing classes and
settles the spellings. A failed run leaves nothing behind but the requests.
-/

namespace ClassAtlas

namespace Resolver

/-- Takes turns to the end. The result is the resolver without pending names, or
the class that failed and why. -/
def run (whitelist : Whitelist) (source : ClassSource σ) (resolver : Resolver) (state : σ)
    (ends : Ends whitelist source resolver state) :
    Except (ClassName × Cause) Resolver × σ :=
  match turned : turn whitelist source resolver state with
  | .through => (.ok resolver, state)
  | .failed name cause later => (.error (name, cause), later)
  | .next next later => run whitelist source next later (ends.inv turned)
termination_by (⟨(resolver, state), ends⟩ : { pair // Acc (Leads whitelist source) pair })
decreasing_by exact turned

/-- A seed that an earlier run recorded as missing. -/
def overdueSeed? (resolver : Resolver) : Option ClassName :=
  resolver.seeds.find? fun name => name ∈ resolver.missing

def begin (resolver : Resolver) : Resolver :=
  { resolver with phase := .draining }

/-- Resolves all that waits. Only the absence of a class that was merely referred
to is tolerated; any other failure ends the run. -/
def drain (whitelist : Whitelist) (source : ClassSource σ) (resolver : Resolver) (state : σ)
    (ends : Ends whitelist source resolver.begin state) :
    Except Failure Unit × Resolver × σ :=
  match resolver.overdueSeed? with
  | some seed => (.error (.resolving seed (.classNotFound seed)), resolver.abort, state)
  | none =>
      match run whitelist source resolver.begin state ends with
      | (.ok last, later) => (.ok (), last.finish, later)
      | (.error (name, cause), later) => (.error (.resolving name cause), resolver.abort, later)

end Resolver
end ClassAtlas
