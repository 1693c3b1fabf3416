import ClassAtlas.Agenda
import ClassAtlas.Source.Basic

/-!
# The state of a resolution

A resolver collects the classes reachable from its seeds. It remembers what was
asked for, what is still to be done, which entries are built and which
referenced classes turned out not to exist.
-/

namespace ClassAtlas

inductive Phase where
  | idle
  | draining
  | drained
deriving DecidableEq

structure Resolver where
  agenda : Agenda
  phase : Phase
  /-- The names asked for, once each, in request order. -/
  seeds : List ClassName
  classes : List (ClassName × ClassEntry)
  missing : List ClassName

namespace Resolver

def start : Resolver where
  agenda := Agenda.empty
  phase := .idle
  seeds := []
  classes := []
  missing := []

def names (resolver : Resolver) : List ClassName :=
  resolver.classes.map Prod.fst

/-- Puts a name on the agenda; a finished resolver has work again. -/
def addTodo (resolver : Resolver) (name : ClassName) (origin : Origin) : Resolver :=
  let (waits, agenda) := resolver.agenda.add name origin
  { resolver with
    agenda
    phase := if waits && resolver.phase = .drained then .idle else resolver.phase }

/-- Asks for a class. A class known not to exist makes the next run fail. -/
def addSeed (resolver : Resolver) (name : ClassName) : Resolver :=
  addTodo { resolver with
    seeds := if name ∈ resolver.seeds then resolver.seeds else resolver.seeds ++ [name]
    phase := if name ∈ resolver.missing then .idle else resolver.phase } name .seed

def addSeeds (resolver : Resolver) (names : List ClassName) : Resolver :=
  names.foldl addSeed resolver

/-- Asks for every class that a source lists in the whitelisted packages, and
counts them. A failing listing leaves the resolver as it was. -/
def seedPackages (whitelist : Whitelist) (source : ClassSource σ) (resolver : Resolver)
    (state : σ) : Except Cause Nat × Resolver × σ :=
  match source.listAll whitelist.packages state with
  | (.error error, later) => (.error (Cause.ofLoadError error), resolver, later)
  | (.ok listed, later) => (.ok listed.length, resolver.addSeeds listed, later)

/-- Gives up everything but the requests. -/
def abort (resolver : Resolver) : Resolver :=
  { start with seeds := resolver.seeds }

def settle (resolver : Resolver) (name : ClassName) (entry : ClassEntry)
    (references : List ClassName) : Resolver :=
  { resolver with
    classes := resolver.classes ++ [(name, entry)]
    agenda := (resolver.agenda.markDone name).addReferences references }

def skip (resolver : Resolver) (name : ClassName) : Resolver :=
  { resolver with
    missing := resolver.missing ++ [name]
    agenda := resolver.agenda.markDone name }

/-!
# Finishing

Classes that do not exist are never generated: supertypes naming them are
dropped and other types fall back to an arbitrary object. Classes that share a
short name are spelled by their whole path wherever they are mentioned.
-/

def isMissingType (missing : List ClassName) : TargetType → Bool
  | .mapped name _ => name ∈ missing
  | _ => false

def eraseFrom (missing : List ClassName) (entry : ClassEntry) : ClassEntry :=
  ClassEntry.mapTypes (TargetType.retain fun name => name ∉ missing)
    { entry with
      targetSupertypes := entry.targetSupertypes.filter fun type => !isMissingType missing type }

def collides (entries : List ClassEntry) (entry : ClassEntry) : Bool :=
  !entry.isPrimitive &&
    1 < (entries.filter fun other => !other.isPrimitive && other.shortName = entry.shortName).length

/-- The whole-path spellings of the classes that collide. -/
def aliases (entries : List ClassEntry) : List (ClassName × String) :=
  (entries.filter (collides entries)).map fun entry => (entry.fullName, entry.fullName.aliasName)

def aliasOf? (aliased : List (ClassName × String)) (name : ClassName) : Option String :=
  (aliased.find? fun entry => entry.1 = name).map Prod.snd

def applyAliases (aliased : List (ClassName × String)) (entry : ClassEntry) : ClassEntry :=
  ClassEntry.mapTypes (TargetType.respell (aliasOf? aliased))
    (match aliasOf? aliased entry.fullName with
      | some aliasName => { entry with useAlias := true, aliasName, targetType := aliasName }
      | none => entry)

def mapEntries (change : ClassEntry → ClassEntry) (resolver : Resolver) : Resolver :=
  { resolver with classes := resolver.classes.map fun (name, entry) => (name, change entry) }

def eraseMissing (resolver : Resolver) : Resolver :=
  resolver.mapEntries (eraseFrom resolver.missing)

def assignAliases (resolver : Resolver) : Resolver :=
  resolver.mapEntries (applyAliases (aliases (resolver.classes.map Prod.snd)))

def finish (resolver : Resolver) : Resolver :=
  { resolver.eraseMissing.assignAliases with phase := .drained }

end Resolver
end ClassAtlas
