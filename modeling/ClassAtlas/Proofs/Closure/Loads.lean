import ClassAtlas.Proofs.Closure.Bookkeeping

/-!
# Every class is loaded once

What a resolver asks its sources to load shows when they keep a record of it.
Recording changes no outcome. As long as no run has failed, the names loaded are
the names done, in the same order, so no name is ever loaded again.
-/

namespace ClassAtlas

/-- The source with a record of the names that it is asked to load, oldest first. -/
def ClassSource.recorded (source : ClassSource σ) : ClassSource (List ClassName × σ) where
  load := fun name (asked, state) =>
    ((source.load name state).1, asked ++ [name], (source.load name state).2)
  list := fun package (asked, state) =>
    ((source.list package state).1, asked, (source.list package state).2)

namespace Resolver

/-!
# Recording changes nothing
-/

def Turn.mapState (view : σ → τ) : Turn σ → Turn τ
  | .through => .through
  | .next resolver state => .next resolver (view state)
  | .failed name cause state => .failed name cause (view state)

variable {whitelist : Whitelist} {source : ClassSource σ}

theorem build_recorded (source : ClassSource σ) (whitelist : Whitelist)
    (resolved : List ClassName) (name : ClassName) (asked : List ClassName) (state : σ) :
    source.recorded.build whitelist resolved name (asked, state) =
      ((source.build whitelist resolved name state).1, asked ++ [name],
        (source.build whitelist resolved name state).2) := by
  have recorded : source.recorded.load name (asked, state) =
      ((source.load name state).1, asked ++ [name], (source.load name state).2) := rfl
  unfold ClassSource.build
  rw [recorded]
  cases source.load name state with
  | mk answer later =>
      cases answer with
      | error error => rfl
      | ok decl =>
          simp only
          split <;> rfl

theorem turn_recorded (whitelist : Whitelist) (source : ClassSource σ) (resolver : Resolver)
    (recorded : List ClassName × σ) :
    (turn whitelist source.recorded resolver recorded).mapState Prod.snd =
      turn whitelist source resolver recorded.2 := by
  rcases recorded with ⟨asked, state⟩
  unfold turn
  cases resolver.agenda.pop? with
  | none => rfl
  | some taken =>
      rcases taken with ⟨⟨name, origin⟩, agenda⟩
      simp only
      split
      · rfl
      · rw [build_recorded]
        cases source.build whitelist agenda.done name state with
        | mk result later =>
            cases result with
            | ok built => rfl
            | error cause =>
                simp only
                split <;> rfl

theorem step_of_recorded {resolver next : Resolver} {recorded later : List ClassName × σ}
    (step : Step whitelist source.recorded resolver recorded next later) :
    Step whitelist source resolver recorded.2 next later.2 := by
  have turned := turn_recorded whitelist source resolver recorded
  rw [turn_of_step step] at turned
  exact step_of_turn turned.symm

theorem Stops.recorded_eq {resolver : Resolver} {recorded later : List ClassName × σ}
    {name : ClassName} {cause : Cause} {origin : Origin} {agenda : Agenda}
    (stops : Stops whitelist source.recorded resolver recorded name cause later origin agenda) :
    later.1 = recorded.1 ++ [name] := by
  rcases recorded with ⟨asked, state⟩
  have failed := stops.failed
  rw [build_recorded] at failed
  rw [← (Prod.mk.inj failed).right]

theorem Ends.recorded {resolver : Resolver} {state : σ}
    (ends : Ends whitelist source resolver state) (asked : List ClassName) :
    Ends whitelist source.recorded resolver (asked, state) := by
  have viewed : Acc (InvImage (Leads whitelist source)
      fun pair : Resolver × (List ClassName × σ) => (pair.1, pair.2.2))
        (resolver, asked, state) := InvImage.accessible _ ends
  refine Subrelation.accessible ?_ viewed
  intro later earlier leads
  exact turn_of_step (step_of_recorded (step_of_turn leads))

theorem run_recorded {resolver : Resolver} {recorded : List ClassName × σ}
    (ends : Ends whitelist source.recorded resolver recorded)
    (plainEnds : Ends whitelist source resolver recorded.2) :
    run whitelist source resolver recorded.2 plainEnds =
      ((run whitelist source.recorded resolver recorded ends).1,
        (run whitelist source.recorded resolver recorded ends).2.2) := by
  fun_induction run whitelist source.recorded resolver recorded ends with
  | case1 resolver recorded ends through =>
      exact run_of_through (turn_eq_through_iff.mp through) plainEnds
  | case2 resolver recorded ends name cause later failed =>
      have turned := turn_recorded whitelist source resolver recorded
      rw [failed] at turned
      exact run_of_failed turned.symm plainEnds
  | case3 resolver recorded ends next later led ih =>
      have step := step_of_recorded (step_of_turn led)
      rw [run_of_step step plainEnds]
      exact ih (plainEnds.step step)

/-- Draining against the recorded source gives what draining against the source gives. -/
theorem drain_recorded {resolver : Resolver} {state : σ}
    (ends : Ends whitelist source resolver.begin state) (asked : List ClassName) :
    ∃ later, resolver.drain whitelist source.recorded (asked, state) (ends.recorded asked) =
      ((resolver.drain whitelist source state ends).1,
        (resolver.drain whitelist source state ends).2.1, later,
        (resolver.drain whitelist source state ends).2.2) := by
  have same := run_recorded (ends.recorded asked) ends
  unfold drain
  split
  · exact ⟨asked, rfl⟩
  · rw [same]
    cases run whitelist source.recorded resolver.begin (asked, state) (ends.recorded asked) with
    | mk result recorded =>
        cases result with
        | ok last => exact ⟨recorded.1, rfl⟩
        | error failure => exact ⟨recorded.1, rfl⟩

/-!
# What is loaded is done
-/

theorem Step.done_recorded {resolver next : Resolver} {recorded later : List ClassName × σ}
    (step : Step whitelist source.recorded resolver recorded next later)
    {before : List ClassName} (same : resolver.agenda.done = before ++ recorded.1) :
    next.agenda.done = before ++ later.1 := by
  have taken : ∀ {item : ClassName × Origin} {agenda : Agenda},
      resolver.agenda.pop? = some (item, agenda) → agenda.done = before ++ recorded.1 :=
    fun popped => (Agenda.pop?_eq_some_iff.mp popped).right.symm.trans same
  have marked : ∀ {name : ClassName} {agenda : Agenda}, name ∉ agenda.done →
      (agenda.markDone name).done = agenda.done ++ [name] := fun fresh => if_neg fresh
  cases step with
  | pass popped idle => exact taken popped
  | build popped fresh admitted loaded answers built =>
      rw [← (Prod.mk.inj loaded).right]
      show (Agenda.addReferences _ _).done = _
      rw [Agenda.done_addReferences, marked fresh, taken popped, List.append_assoc]
  | skip popped fresh admitted loaded =>
      rw [← (Prod.mk.inj loaded).right]
      show (Agenda.markDone _ _).done = _
      rw [marked fresh, taken popped, List.append_assoc]

/-- The names that draining asks the source to load, in order. -/
def loads (whitelist : Whitelist) (source : ClassSource σ) (resolver : Resolver) (state : σ)
    (ends : Ends whitelist source resolver.begin state) : List ClassName :=
  (resolver.drain whitelist source.recorded ([], state) (ends.recorded [])).2.2.1

theorem done_drain {resolver next : Resolver} {state later : σ}
    {ends : Ends whitelist source resolver.begin state}
    (succeeded : resolver.drain whitelist source state ends = (.ok (), next, later)) :
    next.agenda.done = resolver.agenda.done ++ resolver.loads whitelist source state ends := by
  have outcome := drain_outcome
    (fun earlier recorded next later (same : earlier.agenda.done =
        resolver.agenda.done ++ recorded.1) step => step.done_recorded same)
    (ends.recorded []) fun _ => (List.append_nil resolver.agenda.done).symm
  rcases drain_recorded ends [] with ⟨asked, drained⟩
  unfold loads
  rw [drained, succeeded] at outcome ⊢
  cases outcome with
  | through same nothing => exact same

/-- A resolver that has been used without a failed run, and the names that its sources
were asked to load, oldest first. Each run has a source of its own. -/
inductive Unfailing (whitelist : Whitelist) : List ClassName → Resolver → Prop where
  | start : Unfailing whitelist [] start
  | seeded {asked : List ClassName} {resolver : Resolver}
      (earlier : Unfailing whitelist asked resolver) (name : ClassName) :
      Unfailing whitelist asked (resolver.addSeed name)
  | queued {asked : List ClassName} {resolver : Resolver}
      (earlier : Unfailing whitelist asked resolver) (name : ClassName) (origin : Origin) :
      Unfailing whitelist asked (resolver.addTodo name origin)
  | drained {σ : Type} {asked : List ClassName} {resolver next : Resolver} {state later : σ}
      (earlier : Unfailing whitelist asked resolver) (source : ClassSource σ)
      (ends : Ends whitelist source resolver.begin state)
      (succeeded : resolver.drain whitelist source state ends = (.ok (), next, later)) :
      Unfailing whitelist (asked ++ resolver.loads whitelist source state ends) next

theorem Unfailing.exists_history {asked : List ClassName} {resolver : Resolver}
    (unfailing : Unfailing whitelist asked resolver) :
    ∃ events, History whitelist events resolver := by
  induction unfailing with
  | start => exact ⟨_, .start⟩
  | seeded earlier name ih =>
      rcases ih with ⟨events, history⟩
      exact ⟨_, history.seeded name⟩
  | queued earlier name origin ih =>
      rcases ih with ⟨events, history⟩
      exact ⟨_, history.queued name origin⟩
  | @drained _ asked resolver next state later earlier source ends succeeded ih =>
      rcases ih with ⟨events, history⟩
      have after := history.drained source state ends
      rw [succeeded] at after
      exact ⟨_, after⟩

theorem Unfailing.done_eq {asked : List ClassName} {resolver : Resolver}
    (unfailing : Unfailing whitelist asked resolver) : resolver.agenda.done = asked := by
  induction unfailing with
  | start => rfl
  | seeded earlier name ih => exact (Agenda.done_add _ name .seed).trans ih
  | queued earlier name origin ih => exact (Agenda.done_add _ name origin).trans ih
  | drained earlier source ends succeeded ih => rw [done_drain succeeded, ih]

theorem Unfailing.addSeeds {asked : List ClassName} {resolver : Resolver}
    (unfailing : Unfailing whitelist asked resolver) (names : List ClassName) :
    Unfailing whitelist asked (resolver.addSeeds names) := by
  induction names generalizing resolver with
  | nil => exact unfailing
  | cons first rest ih => exact ih (unfailing.seeded first)

/-- As long as no run has failed, no name has been loaded twice or without being
admitted, and the names loaded are those that are mapped or missing. -/
theorem loaded_once_of_unfailing {asked : List ClassName} {resolver : Resolver}
    (unfailing : Unfailing whitelist asked resolver) :
    asked.Nodup ∧ (∀ name ∈ asked, whitelist.admits name = true) ∧
      asked.Perm (resolver.names ++ resolver.missing) := by
  rcases unfailing.exists_history with ⟨events, history⟩
  have coherent := history.sound.coherent
  rw [← unfailing.done_eq]
  exact ⟨coherent.agenda.done_nodup, coherent.admitted, coherent.done_perm⟩

open ClassDecl (overloaded) in
theorem loaded_once_of_unfailing_overloaded :
    ∃ asked resolver, Unfailing (Whitelist.ofRules [.package "a"]) asked resolver ∧
      asked.Nodup ∧ asked.Perm [overloaded.name, ⟨"a.Gone"⟩] := by
  rcases build_overloaded with ⟨entry, built⟩
  rcases drain_overloaded built with ⟨ends, last, later, drained, classes, missing⟩
  have unfailing := ((Unfailing.start.addSeeds [overloaded.name]).drained _ ends drained)
  have names : last.finish.names ++ last.finish.missing = [overloaded.name, ⟨"a.Gone"⟩] := by
    rw [names_finish, Resolver.names, classes]
    exact congrArg _ missing
  rcases loaded_once_of_unfailing unfailing with ⟨nodup, _, perm⟩
  exact ⟨_, last.finish, unfailing, nodup, names ▸ perm⟩

end Resolver
end ClassAtlas
