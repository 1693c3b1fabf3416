import ClassAtlas.Proofs.Closure.Loads
import ClassAtlas.Proofs.Closure.Reachability

/-!
# Failed runs

A failed run names one class. It is the class that was asked for last, or a request that
an earlier run has found missing, for which nothing is asked at all. That a class does not
exist fails a run only if the class was requested. Whatever had been resolved is given up;
a failed listing changes nothing.
-/

namespace ClassAtlas

theorem Cause.kind_eq_notFound_iff {cause : Cause} :
    cause.kind = .notFound ↔ cause.isClassNotFound = true := by
  cases cause <;> simp [kind, isClassNotFound]

namespace Resolver

variable {whitelist : Whitelist} {events : List Event} {resolver : Resolver}

/-- Only a run that has succeeded leaves classes on record as missing. -/
theorem History.drained_of_missing (history : History whitelist events resolver)
    {name : ClassName} (isMissing : name ∈ resolver.missing) :
    Event.drained (.ok ()) ∈ events := by
  induction history with
  | start => cases isMissing
  | seeded earlier other ih => exact List.mem_cons_of_mem _ (ih isMissing)
  | queued earlier other origin ih => exact List.mem_cons_of_mem _ (ih isMissing)
  | listed earlier source state ih =>
      rw [seedPackages_eq, missing_addSeeds] at isMissing
      exact List.mem_cons_of_mem _ (ih isMissing)
  | @drained _ events resolver earlier source state ends ih =>
      cases result : (resolver.drain whitelist source state ends).1 with
      | ok done => exact List.mem_cons_self
      | error failure =>
          rw [drain_failed result] at isMissing
          cases isMissing

/-!
# What a failed run reports and leaves
-/

/-- Nothing is left of a resolver but what was asked for. -/
structure GivenUp (resolver : Resolver) : Prop where
  pending : resolver.agenda.pending = []
  done : resolver.agenda.done = []
  classes : resolver.classes = []
  missing : resolver.missing = []
  phase : resolver.phase = .idle
  atlas : resolver.toAtlas? = none

theorem givenUp_abort (resolver : Resolver) : GivenUp resolver.abort :=
  ⟨rfl, rfl, rfl, rfl, rfl, rfl⟩

/-- How a run comes to fail at a class, given what was done before and the names that the
run has asked its source to load. -/
inductive FailsAt (events : List Event) (resolver : Resolver) (asked : List ClassName)
    (name : ClassName) : Cause → Prop where
  /-- An earlier run has found a request to be missing, and nothing is asked any more. -/
  | overdue (silent : asked = []) (requested : name ∈ resolver.seeds)
      (isMissing : name ∈ resolver.missing) (recorded : Event.drained (.ok ()) ∈ events) :
      FailsAt events resolver asked name (.classNotFound name)
  /-- The class asked for last could not be resolved. Its absence counts if it was
  requested before the run. -/
  | refused {cause : Cause} (last : asked.getLast? = some name)
      (requested : cause.kind = .notFound → (name, Origin.seed) ∈ resolver.agenda.pending) :
      FailsAt events resolver asked name cause

def Pursues (whitelist : Whitelist) (first resolver : Resolver) : Prop :=
  Running whitelist AnyServed resolver ∧
    ∀ name, (name, Origin.seed) ∈ resolver.agenda.pending →
      (name, Origin.seed) ∈ first.agenda.pending

theorem Pursues.step {source : ClassSource σ} {first next : Resolver} {state later : σ}
    (pursues : Pursues whitelist first resolver)
    (step : Step whitelist source resolver state next later) :
    Pursues whitelist first next := by
  rcases pursues with ⟨running, requests⟩
  constructor
  · exact running.step (serves_any source) step
  · intro name waits
    apply requests name
    exact step.mem_requests running.left.coherent waits

theorem Stops.requested {source : ClassSource σ} {state later : σ} {name : ClassName}
    {cause : Cause} {origin : Origin} {agenda : Agenda}
    (stops : Stops whitelist source resolver state name cause later origin agenda)
    (notFound : cause.kind = .notFound) : (name, Origin.seed) ∈ resolver.agenda.pending := by
  rw [(Agenda.pop?_eq_some_iff.mp stops.popped).left]
  rcases stops.fatal with rfl | otherKind
  · exact List.mem_cons_self
  · rw [Cause.kind_eq_notFound_iff.mp notFound] at otherKind
    cases otherKind

theorem History.failsAt {source : ClassSource σ} {state : σ}
    {ends : Ends whitelist source resolver.begin state} {failure : Failure}
    (history : History whitelist events resolver)
    (failed : (resolver.drain whitelist source state ends).1 = .error failure) :
    ∃ name cause, failure = .resolving name cause ∧
      FailsAt events resolver (resolver.loads whitelist source state ends) name cause := by
  have outcome := drain_outcome
    (fun earlier recorded next later (pursues : Pursues whitelist resolver earlier) step =>
      pursues.step step)
    (ends.recorded []) fun _ => ⟨history.sound.running_begin, fun _ waits => waits⟩
  rcases drain_recorded ends [] with ⟨asked, drained⟩
  unfold loads
  rw [drained, failed] at outcome ⊢
  generalize (resolver.drain whitelist source state ends).2 = rest at outcome
  rcases rest with ⟨next, later⟩
  cases outcome with
  | @overdue seed found =>
      have requested : seed ∈ resolver.seeds := List.mem_of_find?_eq_some found
      have isMissing : seed ∈ resolver.missing := by simpa using List.find?_some found
      refine ⟨seed, _, rfl, .overdue rfl requested isMissing ?_⟩
      exact history.drained_of_missing isMissing
  | @stopped before during _ name cause origin agenda pursues stops =>
      refine ⟨name, cause, rfl, .refused ?_ ?_⟩
      · rw [stops.recorded_eq]
        exact List.getLast?_concat
      · intro notFound
        exact pursues.right name (stops.requested notFound)

theorem seedPackages_error {source : ClassSource σ} {state : σ} {cause : Cause}
    (failed : (resolver.seedPackages whitelist source state).1 = .error cause) :
    (resolver.seedPackages whitelist source state).2.1 = resolver := by
  unfold seedPackages at failed ⊢
  split
  · rfl
  · next listed =>
      rw [listed] at failed
      cases failed

/-- Whatever was asked of a resolver before: a run that fails names the class that it asked
for last, or asks for nothing and names a request that an earlier run has found missing. That
a class does not exist fails the run only if the class was requested. Nothing that was
resolved is kept. A listing that fails changes nothing at all. -/
theorem all_or_nothing_of_history (history : History whitelist events resolver) :
    (∀ (σ : Type) (source : ClassSource σ) (state : σ)
      (ends : Ends whitelist source resolver.begin state) (failure : Failure),
      (resolver.drain whitelist source state ends).1 = .error failure →
        (∃ name cause, failure = .resolving name cause ∧
          FailsAt events resolver (resolver.loads whitelist source state ends) name cause) ∧
        GivenUp (resolver.drain whitelist source state ends).2.1) ∧
    (∀ (σ : Type) (source : ClassSource σ) (state : σ) (cause : Cause),
      (resolver.seedPackages whitelist source state).1 = .error cause →
        (resolver.seedPackages whitelist source state).2.1 = resolver) := by
  constructor
  · intro σ source state ends failure failed
    constructor
    · exact history.failsAt failed
    · rw [drain_failed failed]
      exact givenUp_abort resolver
  · intro σ source state cause failed
    exact seedPackages_error failed

theorem drain_of_overdue {source : ClassSource σ} {state : σ} {seed : ClassName}
    (overdue : resolver.overdueSeed? = some seed)
    (ends : Ends whitelist source resolver.begin state) :
    resolver.drain whitelist source state ends =
      (.error (.resolving seed (.classNotFound seed)), resolver.abort, state) := by
  unfold drain
  split
  · next found =>
      rw [overdue] at found
      rw [Option.some.inj found]
  · next found =>
      rw [overdue] at found
      cases found

open ClassDecl (overloaded) in
theorem all_or_nothing_of_history_overdue :
    ∃ (events : List Event) (resolver : Resolver)
      (ends : Ends (Whitelist.ofRules [.package "a"]) (Snapshot.ofDecls [overloaded]).source
        resolver.begin []),
      History (Whitelist.ofRules [.package "a"]) events resolver ∧
      resolver.names = [overloaded.name] ∧
      (resolver.drain (Whitelist.ofRules [.package "a"]) (Snapshot.ofDecls [overloaded]).source []
        ends).1 = .error (.resolving ⟨"a.Gone"⟩ (.classNotFound ⟨"a.Gone"⟩)) ∧
      (∃ cause, FailsAt events resolver (resolver.loads (Whitelist.ofRules [.package "a"])
        (Snapshot.ofDecls [overloaded]).source [] ends) ⟨"a.Gone"⟩ cause) ∧
      GivenUp (resolver.drain (Whitelist.ofRules [.package "a"])
        (Snapshot.ofDecls [overloaded]).source [] ends).2.1 := by
  rcases build_overloaded with ⟨entry, built⟩
  rcases drain_overloaded built with ⟨ends, last, later, drained, classes, missing⟩
  have seeds := seeds_drain (start.addSeeds [overloaded.name]) [] ends
  have history := (History.start.addSeeds [overloaded.name]).drained
    (Snapshot.ofDecls [overloaded]).source [] ends
  rw [drained] at seeds history
  have names : last.finish.names = [overloaded.name] := by
    rw [names_finish, Resolver.names, classes]
    rfl
  have overdue : (last.finish.addSeed ⟨"a.Gone"⟩).overdueSeed? = some ⟨"a.Gone"⟩ := by
    show List.find? (fun name => decide (name ∈ last.missing))
      (if _ then last.finish.seeds else last.finish.seeds ++ _) = _
    rw [seeds, missing]
    rfl
  have finite := (Snapshot.ofDecls [overloaded]).finite_source
  have again := ends_of_finite finite (Whitelist.ofRules [.package "a"])
    (last.finish.addSeed ⟨"a.Gone"⟩).begin []
  have failed := congrArg Prod.fst (drain_of_overdue overdue again)
  rcases (all_or_nothing_of_history (history.seeded ⟨"a.Gone"⟩)).left _ _ _ again _ failed with
    ⟨⟨name, cause, named, failsAt⟩, givenUp⟩
  rw [← (Failure.resolving.inj named).left] at failsAt
  exact ⟨_, _, again, history.seeded ⟨"a.Gone"⟩, names, failed, ⟨cause, failsAt⟩, givenUp⟩

end Resolver
end ClassAtlas
