import ClassAtlas.Atlas
import ClassAtlas.Proofs.Closure.Coherence
import ClassAtlas.Source.Snapshot

/-!
# Histories of a resolver

A resolver is used by asking for classes and packages and by draining, in any
order, each time with a source of its own. Whatever fails on the way, the
resolver stays sound.
-/

namespace ClassAtlas

namespace Resolver

inductive Event where
  | seeded (name : ClassName)
  | queued (name : ClassName) (origin : Origin)
  | listed (outcome : Except LoadError (List ClassName))
  | drained (outcome : Except Failure Unit)

/-- The events that lead from a new resolver to this one, latest first. -/
inductive History (whitelist : Whitelist) : List Event → Resolver → Prop where
  | start : History whitelist [] start
  | seeded {events : List Event} {resolver : Resolver}
      (earlier : History whitelist events resolver) (name : ClassName) :
      History whitelist (.seeded name :: events) (resolver.addSeed name)
  | queued {events : List Event} {resolver : Resolver}
      (earlier : History whitelist events resolver) (name : ClassName) (origin : Origin) :
      History whitelist (.queued name origin :: events) (resolver.addTodo name origin)
  | listed {σ : Type} {events : List Event} {resolver : Resolver}
      (earlier : History whitelist events resolver) (source : ClassSource σ) (state : σ) :
      History whitelist (.listed (source.listAll whitelist.packages state).1 :: events)
        (resolver.seedPackages whitelist source state).2.1
  | drained {σ : Type} {events : List Event} {resolver : Resolver}
      (earlier : History whitelist events resolver) (source : ClassSource σ) (state : σ)
      (ends : Ends whitelist source resolver.begin state) :
      History whitelist (.drained (resolver.drain whitelist source state ends).1 :: events)
        (resolver.drain whitelist source state ends).2.1

def listedNames : Except LoadError (List ClassName) → List ClassName
  | .ok names => names
  | .error _ => []

theorem seedPackages_eq (whitelist : Whitelist) (source : ClassSource σ) (resolver : Resolver)
    (state : σ) :
    (resolver.seedPackages whitelist source state).2.1 =
      resolver.addSeeds (listedNames (source.listAll whitelist.packages state).1) := by
  unfold seedPackages
  split
  · next failed => rw [failed]; rfl
  · next listed => rw [listed]; rfl

def AnyServed (_ : ClassName) (_ : ClassDecl) : Prop :=
  True

theorem serves_any (source : ClassSource σ) : Serves source AnyServed :=
  fun _ _ _ _ _ _ => trivial

theorem History.sound {whitelist : Whitelist} {events : List Event} {resolver : Resolver}
    (history : History whitelist events resolver) : Sound whitelist AnyServed resolver := by
  induction history with
  | start => exact sound_start whitelist AnyServed
  | seeded earlier name ih => exact ih.addSeed name
  | queued earlier name origin ih => exact ih.addTodo name origin
  | listed earlier source state ih =>
      rw [seedPackages_eq]
      exact ih.addSeeds _
  | drained earlier source state ends ih => exact ih.drain (serves_any source) state ends

theorem History.addSeeds {whitelist : Whitelist} {events : List Event} {resolver : Resolver}
    (history : History whitelist events resolver) (names : List ClassName) :
    History whitelist (names.reverse.map .seeded ++ events) (resolver.addSeeds names) := by
  induction names generalizing events resolver with
  | nil => exact history
  | cons first rest ih =>
      have later := ih (history.seeded first)
      rw [List.reverse_cons, List.map_append, List.append_assoc]
      exact later

/-!
# Resolving one class

The class is built and refers to a class of its package that does not exist.
-/

open ClassDecl (overloaded)

theorem build_overloaded :
    ∃ entry, overloaded.build (Whitelist.ofRules [.package "a"]) [] =
      .ok (entry, [⟨"a.Gone"⟩]) :=
  ⟨_, rfl⟩

theorem drain_overloaded {entry : ClassEntry}
    (built : overloaded.build (Whitelist.ofRules [.package "a"]) [] =
      .ok (entry, [⟨"a.Gone"⟩])) :
    ∃ (ends : Ends (Whitelist.ofRules [.package "a"]) (Snapshot.ofDecls [overloaded]).source
        (start.addSeeds [overloaded.name]).begin []) (last : Resolver) (later : Snapshot.Journal),
      (start.addSeeds [overloaded.name]).drain (Whitelist.ofRules [.package "a"])
        (Snapshot.ofDecls [overloaded]).source [] ends = (.ok (), last.finish, later) ∧
      last.classes = [(overloaded.name, entry)] ∧ last.missing = [⟨"a.Gone"⟩] := by
  have ends := ends_of_finite (Snapshot.ofDecls [overloaded]).finite_source
    (Whitelist.ofRules [.package "a"]) (start.addSeeds [overloaded.name]).begin []
  have popped : (start.addSeeds [overloaded.name]).begin.agenda.pop? =
      some ((overloaded.name, .seed), ⟨[], []⟩) := rfl
  have loaded : (Snapshot.ofDecls [overloaded]).source.load overloaded.name [] =
      (.ok overloaded, [overloaded.name]) := rfl
  have fresh : (⟨"a.Gone"⟩ : ClassName) ∉ [overloaded.name] := by decide
  have builds := run_of_step (.build popped (by decide) (by decide) loaded rfl built) ends
  have ran := builds.trans ((run_of_step (.skip rfl fresh (by decide) rfl) _).trans
    (run_of_through rfl _))
  exact ⟨ends, _, _, drain_of_run_ok rfl ran, rfl, rfl⟩

end Resolver
end ClassAtlas
