import ClassAtlas.Closure.Drain
import ClassAtlas.Entry.Json
import ClassAtlas.Json.Printer

/-!
# Atlases

The outcome of a resolution: what was asked for, the entries of all classes
reached, and the admitted classes that are referred to but do not exist.
-/

namespace ClassAtlas

structure Atlas where
  /-- The names asked for, in request order. -/
  seeds : List ClassName
  /-- The entries in resolution order. -/
  classes : List (ClassName × ClassEntry)
  missing : List ClassName

namespace Atlas

def names (atlas : Atlas) : List ClassName :=
  atlas.classes.map Prod.fst

def entries (atlas : Atlas) : List ClassEntry :=
  atlas.classes.map Prod.snd

def contains (atlas : Atlas) (name : ClassName) : Bool :=
  name ∈ atlas.names

def size (atlas : Atlas) : Nat :=
  atlas.classes.length

def methodCount (atlas : Atlas) : Nat :=
  (atlas.entries.map fun entry => entry.methods.length).foldl (· + ·) 0

def without (atlas : Atlas) (dropped : List ClassName) : Atlas :=
  { atlas with
    classes := atlas.classes.filter fun item => item.1 ∉ dropped
    missing := atlas.missing.filter fun name => name ∉ dropped }

/-- Admitted names that entries mention and that are neither mapped nor missing. -/
def dangling (whitelist : Whitelist) (atlas : Atlas) : Except Cause (List ClassName) :=
  (atlas.entries.mapM ClassEntry.mentions).map fun mentioned =>
    distinct (mentioned.flatten.filter fun name =>
      whitelist.admits name && !atlas.contains name && name ∉ atlas.missing)

def toJson (atlas : Atlas) : Json :=
  .object [
    ("seeds", .array (atlas.seeds.map ClassName.toJson)),
    ("classes", .object (atlas.classes.map fun item => (item.1.text, item.2.toJson))),
    ("missing", .array (atlas.missing.map ClassName.toJson))]

def render (atlas : Atlas) : String :=
  atlas.toJson.pretty

end Atlas

namespace Resolver

def toAtlas? (resolver : Resolver) : Option Atlas :=
  if resolver.phase = .drained then some ⟨resolver.seeds, resolver.classes, resolver.missing⟩
  else none

def resolve (whitelist : Whitelist) (source : ClassSource σ) (resolver : Resolver) (state : σ)
    (ends : Ends whitelist source resolver.begin state) : Except Failure Atlas × σ :=
  match resolver.drain whitelist source state ends with
  | (.ok (), last, later) => (.ok ⟨last.seeds, last.classes, last.missing⟩, later)
  | (.error failure, _, later) => (.error failure, later)

end Resolver

/-- The atlas of everything reachable from some seeds. -/
def Whitelist.resolve (whitelist : Whitelist) (source : ClassSource σ) (finite : source.Finite)
    (seeds : List ClassName) (state : σ) : Except Failure Atlas × σ :=
  let resolver := Resolver.start.addSeeds seeds
  resolver.resolve whitelist source state
    (Resolver.ends_of_finite finite whitelist resolver.begin state)

end ClassAtlas
