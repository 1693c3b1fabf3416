import ClassAtlas.Atlas
import ClassAtlas.Proofs.Agenda
import ClassAtlas.Proofs.Entry.Failures

/-!
# What a turn does

A turn that leads on passes a name over, takes up an entry or skips a class that
does not exist. What every such turn preserves holds at the end of a run, or
before the turn that fails.
-/

namespace ClassAtlas

/-!
# Building from a source
-/

theorem ClassSource.load_of_build_classNotFound {source : ClassSource σ} {whitelist : Whitelist}
    {resolved : List ClassName} {name : ClassName} {state later : σ} {cause : Cause}
    (failed : source.build whitelist resolved name state = (.error cause, later))
    (notFound : cause.isClassNotFound = true) :
    ∃ absent, source.load name state = (.error (.notFound absent), later) := by
  unfold ClassSource.build at failed
  split at failed
  · next error after loaded =>
      rcases Prod.mk.inj failed with ⟨same, rfl⟩
      cases error with
      | notFound absent => exact ⟨absent, loaded⟩
      | unavailable reason =>
          rw [← Except.error.inj same] at notFound
          cases notFound
      | malformed other defect =>
          rw [← Except.error.inj same] at notFound
          cases notFound
  · split at failed
    · have unsupported := ClassDecl.isUnsupported_of_build (Prod.mk.inj failed).left
      rw [unsupported.isClassNotFound] at notFound
      cases notFound
    · rw [← Except.error.inj (Prod.mk.inj failed).left] at notFound
      cases notFound

theorem ClassSource.load_of_build {source : ClassSource σ} {whitelist : Whitelist}
    {resolved : List ClassName} {name : ClassName} {state later : σ} {entry : ClassEntry}
    {references : List ClassName}
    (built : source.build whitelist resolved name state = (.ok (entry, references), later)) :
    ∃ decl, source.load name state = (.ok decl, later) ∧ decl.name = name ∧
      decl.build whitelist resolved = .ok (entry, references) := by
  unfold ClassSource.build at built
  split at built
  · exact of_error_eq_ok (Prod.mk.inj built).left
  · next decl after loaded =>
      split at built
      · next answers =>
          rcases Prod.mk.inj built with ⟨made, rfl⟩
          exact ⟨decl, loaded, answers, made⟩
      · exact of_error_eq_ok (Prod.mk.inj built).left

/-!
# Steps
-/

namespace Resolver

/-- What a turn that leads on has done. -/
inductive Step (whitelist : Whitelist) (source : ClassSource σ) (resolver : Resolver) (state : σ) :
    Resolver → σ → Prop where
  | pass {name : ClassName} {origin : Origin} {agenda : Agenda}
      (popped : resolver.agenda.pop? = some ((name, origin), agenda))
      (idle : name ∈ agenda.done ∨ whitelist.admits name = false) :
      Step whitelist source resolver state { resolver with agenda } state
  | build {name : ClassName} {origin : Origin} {agenda : Agenda} {decl : ClassDecl} {later : σ}
      {entry : ClassEntry} {references : List ClassName}
      (popped : resolver.agenda.pop? = some ((name, origin), agenda))
      (fresh : name ∉ agenda.done) (admitted : whitelist.admits name = true)
      (loaded : source.load name state = (.ok decl, later)) (answers : decl.name = name)
      (built : decl.build whitelist agenda.done = .ok (entry, references)) :
      Step whitelist source resolver state
        (settle { resolver with agenda } name entry references) later
  | skip {name absent : ClassName} {agenda : Agenda} {later : σ}
      (popped : resolver.agenda.pop? = some ((name, .reference), agenda))
      (fresh : name ∉ agenda.done) (admitted : whitelist.admits name = true)
      (loaded : source.load name state = (.error (.notFound absent), later)) :
      Step whitelist source resolver state (Resolver.skip { resolver with agenda } name) later

/-- Why a turn ends the run. -/
structure Stops (whitelist : Whitelist) (source : ClassSource σ) (resolver : Resolver) (state : σ)
    (name : ClassName) (cause : Cause) (later : σ) (origin : Origin) (agenda : Agenda) :
    Prop where
  popped : resolver.agenda.pop? = some ((name, origin), agenda)
  fresh : name ∉ agenda.done
  admitted : whitelist.admits name = true
  failed : source.build whitelist agenda.done name state = (.error cause, later)
  fatal : origin = .seed ∨ cause.isClassNotFound = false

variable {whitelist : Whitelist} {source : ClassSource σ} {resolver : Resolver} {state : σ}

theorem turn_eq_through_iff :
    turn whitelist source resolver state = .through ↔ resolver.agenda.pending = [] := by
  rw [← Agenda.pop?_eq_none_iff]
  unfold turn
  cases popped : resolver.agenda.pop? with
  | none => simp
  | some taken =>
      simp only
      constructor
      · intro impossible
        split at impossible
        · cases impossible
        · split at impossible
          · cases impossible
          · split at impossible <;> cases impossible
      · intro impossible
        cases impossible

theorem step_of_turn {next : Resolver} {later : σ}
    (turned : turn whitelist source resolver state = .next next later) :
    Step whitelist source resolver state next later := by
  unfold turn at turned
  split at turned
  · cases turned
  · next name origin agenda popped =>
      simp only at turned
      split at turned
      · next passed =>
          rcases Turn.next.inj turned with ⟨rfl, rfl⟩
          rw [Bool.or_eq_true, Agenda.isDone_iff, Bool.not_eq_true'] at passed
          exact .pass popped passed
      · next taken =>
          rw [Bool.or_eq_true, Agenda.isDone_iff, Bool.not_eq_true', not_or,
            Bool.not_eq_false] at taken
          split at turned
          · next entry references after built =>
              rcases Turn.next.inj turned with ⟨rfl, rfl⟩
              rcases ClassSource.load_of_build built with ⟨decl, loaded, answers, made⟩
              exact .build popped taken.left taken.right loaded answers made
          · next cause after failed =>
              split at turned
              · next tolerated =>
                  rcases Turn.next.inj turned with ⟨rfl, rfl⟩
                  rw [Bool.and_eq_true, decide_eq_true_iff] at tolerated
                  rcases ClassSource.load_of_build_classNotFound failed tolerated.right with
                    ⟨absent, loaded⟩
                  exact .skip (tolerated.left ▸ popped) taken.left taken.right loaded
              · cases turned

theorem turn_of_step {next : Resolver} {later : σ}
    (step : Step whitelist source resolver state next later) :
    turn whitelist source resolver state = .next next later := by
  cases step with
  | @pass name origin agenda popped idle =>
      have passed : (agenda.isDone name || !whitelist.admits name) = true := by
        rw [Bool.or_eq_true, Agenda.isDone_iff, Bool.not_eq_true']
        exact idle
      rw [turn, popped]
      exact if_pos passed
  | @build name origin agenda decl _ entry references popped fresh admitted loaded answers built =>
      have taken : ¬(agenda.isDone name || !whitelist.admits name) = true := by
        rw [Bool.or_eq_true, Agenda.isDone_iff, Bool.not_eq_true', not_or, Bool.not_eq_false]
        exact ⟨fresh, admitted⟩
      have made : source.build whitelist agenda.done name state =
          (.ok (entry, references), later) := by
        rw [ClassSource.build, loaded]
        simp only [answers, if_true, built]
      rw [turn, popped]
      refine (if_neg taken).trans ?_
      rw [made]
  | @skip name absent agenda _ popped fresh admitted loaded =>
      have taken : ¬(agenda.isDone name || !whitelist.admits name) = true := by
        rw [Bool.or_eq_true, Agenda.isDone_iff, Bool.not_eq_true', not_or, Bool.not_eq_false]
        exact ⟨fresh, admitted⟩
      have failed : source.build whitelist agenda.done name state =
          (.error (.classNotFound absent), later) := by
        rw [ClassSource.build, loaded]
        rfl
      rw [turn, popped]
      refine (if_neg taken).trans ?_
      rw [failed]
      rfl

theorem Step.seeds {next : Resolver} {later : σ}
    (step : Step whitelist source resolver state next later) : next.seeds = resolver.seeds := by
  cases step <;> rfl

/-- A step makes known only what an admitted class refers to that was known before. -/
theorem Step.exists_of_knows {next : Resolver} {later : σ}
    (step : Step whitelist source resolver state next later) {other : ClassName}
    (known : next.agenda.Knows other) :
    resolver.agenda.Knows other ∨
      ∃ name decl entry references, resolver.agenda.Knows name ∧
        whitelist.admits name = true ∧ source.load name state = (.ok decl, later) ∧
        decl.build whitelist resolver.agenda.done = .ok (entry, references) ∧
        other ∈ references := by
  cases step with
  | pass popped idle => exact Or.inl ((Agenda.knows_of_pop? popped).mpr (Or.inr known))
  | build popped fresh admitted loaded answers built =>
      rcases Agenda.knows_addReferences.mp known with old | referred
      · exact Or.inl ((Agenda.knows_of_pop? popped).mpr (Agenda.knows_markDone.mp old))
      · rw [← (Agenda.pop?_eq_some_iff.mp popped).right] at built
        have taken := (Agenda.knows_of_pop? popped).mpr (Or.inl rfl)
        exact Or.inr ⟨_, _, _, _, taken, admitted, loaded, built, referred⟩
  | skip popped fresh admitted loaded =>
      exact Or.inl ((Agenda.knows_of_pop? popped).mpr (Agenda.knows_markDone.mp known))

theorem stops_of_turn {name : ClassName} {cause : Cause} {later : σ}
    (turned : turn whitelist source resolver state = .failed name cause later) :
    ∃ origin agenda, Stops whitelist source resolver state name cause later origin agenda := by
  unfold turn at turned
  split at turned
  · cases turned
  · next taken origin agenda popped =>
      simp only at turned
      split at turned
      · cases turned
      · next wanted =>
          rw [Bool.or_eq_true, Agenda.isDone_iff, Bool.not_eq_true', not_or,
            Bool.not_eq_false] at wanted
          split at turned
          · cases turned
          · next found after failed =>
              split at turned
              · cases turned
              · next fatal =>
                  rcases Turn.failed.inj turned with ⟨rfl, rfl, rfl⟩
                  refine ⟨origin, agenda, popped, wanted.left, wanted.right, failed, ?_⟩
                  cases origin with
                  | seed => exact Or.inl rfl
                  | reference => exact Or.inr (by simpa using fatal)

theorem Stops.knows {name : ClassName} {cause : Cause} {later : σ} {origin : Origin}
    {agenda : Agenda}
    (stops : Stops whitelist source resolver state name cause later origin agenda) :
    resolver.agenda.Knows name :=
  (Agenda.knows_of_pop? stops.popped).mpr (Or.inl rfl)

/-!
# Runs
-/

theorem run_of_through (nothing : resolver.agenda.pending = [])
    (ends : Ends whitelist source resolver state) :
    run whitelist source resolver state ends = (.ok resolver, state) := by
  have through : turn whitelist source resolver state = .through :=
    turn_eq_through_iff.mpr nothing
  rw [run]
  split
  · rfl
  · next turned => rw [through] at turned; cases turned
  · next turned => rw [through] at turned; cases turned

theorem run_of_failed {name : ClassName} {cause : Cause} {later : σ}
    (failed : turn whitelist source resolver state = .failed name cause later)
    (ends : Ends whitelist source resolver state) :
    run whitelist source resolver state ends = (.error (name, cause), later) := by
  rw [run]
  split
  · next turned => rw [failed] at turned; cases turned
  · next turned =>
      rw [failed] at turned
      rcases Turn.failed.inj turned with ⟨rfl, rfl, rfl⟩
      rfl
  · next turned => rw [failed] at turned; cases turned

theorem Ends.step {next : Resolver} {later : σ} (ends : Ends whitelist source resolver state)
    (step : Step whitelist source resolver state next later) :
    Ends whitelist source next later :=
  ends.inv (turn_of_step step)

theorem run_of_step {next : Resolver} {later : σ}
    (step : Step whitelist source resolver state next later)
    (ends : Ends whitelist source resolver state) :
    run whitelist source resolver state ends =
      run whitelist source next later (ends.step step) := by
  have led := turn_of_step step
  rw [run]
  split
  · next turned => rw [led] at turned; cases turned
  · next turned => rw [led] at turned; cases turned
  · next turned =>
      rw [led] at turned
      rcases Turn.next.inj turned with ⟨rfl, rfl⟩
      rfl

/-- How a run may end, given what holds between its turns. -/
inductive RunOutcome (whitelist : Whitelist) (source : ClassSource σ)
    (Inv : Resolver → σ → Prop) : Except (ClassName × Cause) Resolver × σ → Prop where
  | through {last : Resolver} {later : σ} (holds : Inv last later)
      (nothing : last.agenda.pending = []) : RunOutcome whitelist source Inv (.ok last, later)
  | stopped {before : Resolver} {during later : σ} {name : ClassName} {cause : Cause}
      {origin : Origin} {agenda : Agenda} (holds : Inv before during)
      (stops : Stops whitelist source before during name cause later origin agenda) :
      RunOutcome whitelist source Inv (.error (name, cause), later)

theorem run_outcome {Inv : Resolver → σ → Prop}
    (preserved : ∀ resolver state next later, Inv resolver state →
      Step whitelist source resolver state next later → Inv next later)
    (ends : Ends whitelist source resolver state) (holds : Inv resolver state) :
    RunOutcome whitelist source Inv (run whitelist source resolver state ends) := by
  fun_induction run whitelist source resolver state ends with
  | case1 resolver state ends through => exact .through holds (turn_eq_through_iff.mp through)
  | case2 resolver state ends name cause later failed =>
      rcases stops_of_turn failed with ⟨origin, agenda, stops⟩
      exact .stopped holds stops
  | case3 resolver state ends next later led ih =>
      exact ih (preserved resolver state next later holds (step_of_turn led))

inductive DrainOutcome (whitelist : Whitelist) (source : ClassSource σ) (resolver : Resolver)
    (state : σ) (Inv : Resolver → σ → Prop) : Except Failure Unit × Resolver × σ → Prop where
  | overdue {seed : ClassName} (found : resolver.overdueSeed? = some seed) :
      DrainOutcome whitelist source resolver state Inv
        (.error (.resolving seed (.classNotFound seed)), resolver.abort, state)
  | through {last : Resolver} {later : σ} (holds : Inv last later)
      (nothing : last.agenda.pending = []) :
      DrainOutcome whitelist source resolver state Inv (.ok (), last.finish, later)
  | stopped {before : Resolver} {during later : σ} {name : ClassName} {cause : Cause}
      {origin : Origin} {agenda : Agenda} (holds : Inv before during)
      (stops : Stops whitelist source before during name cause later origin agenda) :
      DrainOutcome whitelist source resolver state Inv
        (.error (.resolving name cause), resolver.abort, later)

theorem drain_outcome {Inv : Resolver → σ → Prop}
    (preserved : ∀ resolver state next later, Inv resolver state →
      Step whitelist source resolver state next later → Inv next later)
    (ends : Ends whitelist source resolver.begin state)
    (holds : resolver.overdueSeed? = none → Inv resolver.begin state) :
    DrainOutcome whitelist source resolver state Inv
      (resolver.drain whitelist source state ends) := by
  unfold drain
  split
  · next seed found => exact .overdue found
  · next notOverdue =>
      have outcome := run_outcome preserved ends (holds notOverdue)
      split
      · next last later ran =>
          rw [ran] at outcome
          cases outcome with
          | through holds nothing => exact .through holds nothing
      · next name cause later ran =>
          rw [ran] at outcome
          cases outcome with
          | stopped holds stops => exact .stopped holds stops

theorem exists_finish_of_drain {next : Resolver} {later : σ}
    {ends : Ends whitelist source resolver.begin state}
    (succeeded : resolver.drain whitelist source state ends = (.ok (), next, later)) :
    ∃ last : Resolver, next = last.finish ∧ last.agenda.pending = [] := by
  have outcome := drain_outcome (fun _ _ _ _ _ _ => trivial) ends fun _ => trivial
  rw [succeeded] at outcome
  cases outcome with
  | @through last _ holds nothing => exact ⟨last, rfl, nothing⟩

theorem overdueSeed?_eq_none_iff :
    resolver.overdueSeed? = none ↔ ∀ name ∈ resolver.seeds, name ∉ resolver.missing := by
  unfold overdueSeed?
  rw [List.find?_eq_none]
  simp only [decide_eq_true_eq]

theorem drain_of_run_ok {last : Resolver} {later : σ}
    {ends : Ends whitelist source resolver.begin state}
    (notOverdue : resolver.overdueSeed? = none)
    (ran : run whitelist source resolver.begin state ends = (.ok last, later)) :
    resolver.drain whitelist source state ends = (.ok (), last.finish, later) := by
  unfold drain
  rw [ran]
  split
  · next seed found => rw [notOverdue] at found; cases found
  · rfl

theorem drain_of_run_error {name : ClassName} {cause : Cause} {later : σ}
    {ends : Ends whitelist source resolver.begin state}
    (notOverdue : resolver.overdueSeed? = none)
    (ran : run whitelist source resolver.begin state ends = (.error (name, cause), later)) :
    resolver.drain whitelist source state ends =
      (.error (.resolving name cause), resolver.abort, later) := by
  unfold drain
  rw [ran]
  split
  · next seed found => rw [notOverdue] at found; cases found
  · rfl

theorem resolve_eq_ok_iff {atlas : Atlas} {later : σ}
    {ends : Ends whitelist source resolver.begin state} :
    resolver.resolve whitelist source state ends = (.ok atlas, later) ↔
      ∃ last, resolver.drain whitelist source state ends = (.ok (), last, later) ∧
        atlas = ⟨last.seeds, last.classes, last.missing⟩ := by
  unfold resolve
  rcases resolver.drain whitelist source state ends with ⟨outcome, last, after⟩
  constructor
  · intro resolved
    cases outcome with
    | error failure => cases resolved
    | ok =>
        rcases Prod.mk.inj resolved with ⟨same, rfl⟩
        exact ⟨last, rfl, (Except.ok.inj same).symm⟩
  · intro found
    rcases found with ⟨next, same, rfl⟩
    cases same
    rfl

end Resolver
end ClassAtlas
