import Mathlib.Data.List.Perm.Subperm
import ClassAtlas.Proofs.Closure.Loads

/-!
# The work of a run

While a run takes names off its agenda, classes put new ones on it, and they may refer to
each other in circles. What bounds the run is not the length of the agenda but the agenda
together with the names that can still come up: every name taken makes these fewer. Against
a snapshot a run therefore takes at most the names that wait at its start and, once each, the
names that the classes of the snapshot mention.
-/

namespace ClassAtlas

def Agenda.oldest (agenda : Agenda) : List ClassName :=
  (agenda.pop?.map fun taken => taken.1.1).toList

theorem Agenda.oldest_of_pop? {agenda rest : Agenda} {item : ClassName × Origin}
    (popped : agenda.pop? = some (item, rest)) : agenda.oldest = [item.1] := by
  rw [oldest, popped]
  rfl

theorem Agenda.length_oldest_le (agenda : Agenda) (known : List ClassName) :
    agenda.oldest.length ≤ agenda.remaining known := by
  unfold oldest pop? remaining
  cases agenda.pending with
  | nil => exact Nat.zero_le _
  | cons first others =>
      show 1 ≤ others.length + 1 + _
      omega

theorem Agenda.length_oldest_le_one (agenda : Agenda) : agenda.oldest.length ≤ 1 := by
  unfold oldest
  cases agenda.pop? with
  | none => exact Nat.zero_le _
  | some taken => exact Nat.le_refl _

namespace Resolver

variable {whitelist : Whitelist} {source : ClassSource σ}

def taken (whitelist : Whitelist) (source : ClassSource σ) (resolver : Resolver) (state : σ)
    (ends : Ends whitelist source resolver state) : List ClassName :=
  match turned : turn whitelist source resolver state with
  | .through => resolver.agenda.oldest
  | .failed _ _ _ => resolver.agenda.oldest
  | .next next later =>
      resolver.agenda.oldest ++ taken whitelist source next later (ends.inv turned)
termination_by (⟨(resolver, state), ends⟩ : { pair // Acc (Leads whitelist source) pair })
decreasing_by exact turned

/-- The names that draining takes off the agenda. A run that fails for an earlier request
takes none. -/
def drainTaken (whitelist : Whitelist) (source : ClassSource σ) (resolver : Resolver) (state : σ)
    (ends : Ends whitelist source resolver.begin state) : List ClassName :=
  match resolver.overdueSeed? with
  | some _ => []
  | none => taken whitelist source resolver.begin state ends

/-!
# Names taken and names loaded

A name is loaded only after it was taken, though not every name taken is loaded.
-/

theorem Step.loaded_of_taken {resolver next : Resolver} {recorded later : List ClassName × σ}
    (step : Step whitelist source.recorded resolver recorded next later) :
    ∃ loaded, later.1 = recorded.1 ++ loaded ∧ loaded.Sublist resolver.agenda.oldest := by
  cases step with
  | pass popped idle => exact ⟨[], (List.append_nil _).symm, List.nil_sublist _⟩
  | build popped fresh admitted loaded answers built =>
      rw [Agenda.oldest_of_pop? popped, ← (Prod.mk.inj loaded).right]
      exact ⟨_, rfl, List.Sublist.refl _⟩
  | skip popped fresh admitted loaded =>
      rw [Agenda.oldest_of_pop? popped, ← (Prod.mk.inj loaded).right]
      exact ⟨_, rfl, List.Sublist.refl _⟩

theorem Stops.loaded_of_taken {resolver : Resolver} {recorded later : List ClassName × σ}
    {name : ClassName} {cause : Cause} {origin : Origin} {agenda : Agenda}
    (stops : Stops whitelist source.recorded resolver recorded name cause later origin agenda) :
    ∃ loaded, later.1 = recorded.1 ++ loaded ∧ loaded.Sublist resolver.agenda.oldest := by
  rw [Agenda.oldest_of_pop? stops.popped]
  exact ⟨[name], stops.recorded_eq, List.Sublist.refl _⟩

theorem taken_of_step {resolver next : Resolver} {state later : σ}
    (step : Step whitelist source resolver state next later)
    (ends : Ends whitelist source resolver state) :
    taken whitelist source resolver state ends =
      resolver.agenda.oldest ++ taken whitelist source next later (ends.step step) := by
  have led := turn_of_step step
  rw [taken]
  split
  · next turned => rw [led] at turned; cases turned
  · next turned => rw [led] at turned; cases turned
  · next turned =>
      rw [led] at turned
      rcases Turn.next.inj turned with ⟨rfl, rfl⟩
      rfl

theorem oldest_sublist_taken {resolver : Resolver} {state : σ}
    (ends : Ends whitelist source resolver state) :
    resolver.agenda.oldest.Sublist (taken whitelist source resolver state ends) := by
  rw [taken]
  split
  · exact List.Sublist.refl _
  · exact List.Sublist.refl _
  · exact List.sublist_append_left _ _

theorem run_loaded_of_taken {resolver : Resolver} {recorded : List ClassName × σ}
    (ends : Ends whitelist source.recorded resolver recorded)
    (plainEnds : Ends whitelist source resolver recorded.2) :
    ∃ loaded, (run whitelist source.recorded resolver recorded ends).2.1 =
        recorded.1 ++ loaded ∧
      loaded.Sublist (taken whitelist source resolver recorded.2 plainEnds) := by
  fun_induction run whitelist source.recorded resolver recorded ends with
  | case1 resolver recorded ends through =>
      exact ⟨[], (List.append_nil _).symm, List.nil_sublist _⟩
  | case2 resolver recorded ends name cause later failed =>
      rcases stops_of_turn failed with ⟨origin, agenda, stops⟩
      rcases stops.loaded_of_taken with ⟨loaded, same, wasTaken⟩
      exact ⟨loaded, same, wasTaken.trans (oldest_sublist_taken plainEnds)⟩
  | case3 resolver recorded ends next later led ih =>
      have step := step_of_turn led
      have plainStep := step_of_recorded step
      rcases step.loaded_of_taken with ⟨now, sameNow, wasTaken⟩
      rcases ih (plainEnds.step plainStep) with ⟨rest, sameRest, wereTaken⟩
      refine ⟨now ++ rest, ?_, ?_⟩
      · rw [sameRest, sameNow, List.append_assoc]
      · rw [taken_of_step plainStep plainEnds]
        exact wasTaken.append wereTaken

theorem loads_sublist_drainTaken {resolver : Resolver} {state : σ}
    (ends : Ends whitelist source resolver.begin state) :
    (resolver.loads whitelist source state ends).Sublist
      (resolver.drainTaken whitelist source state ends) := by
  rcases run_loaded_of_taken (ends.recorded []) ends with ⟨loaded, same, wereTaken⟩
  rw [List.nil_append] at same
  unfold loads drain drainTaken
  cases overdue : resolver.overdueSeed? with
  | some seed => exact List.Sublist.refl _
  | none =>
      cases ran : run whitelist source.recorded resolver.begin ([], state) (ends.recorded []) with
      | mk result recorded =>
          rw [ran] at same
          rw [← same] at wereTaken
          cases result with
          | ok last => exact wereTaken
          | error failure => exact wereTaken

/-!
# The bound
-/

theorem length_taken_le {known : List ClassName}
    (bounded : ∀ name state decl later, source.load name state = (.ok decl, later) →
      ∀ other ∈ decl.mentioned, other ∈ known)
    {resolver : Resolver} {state : σ} (ends : Ends whitelist source resolver state) :
    (taken whitelist source resolver state ends).length ≤
      resolver.agenda.remaining (known.filter whitelist.admits) := by
  fun_induction taken whitelist source resolver state ends with
  | case1 resolver state ends through => exact Agenda.length_oldest_le _ _
  | case2 resolver state ends name cause later failed => exact Agenda.length_oldest_le _ _
  | case3 resolver state ends next later led ih =>
      have fewer := remaining_lt_of_turn bounded led
      have single := resolver.agenda.length_oldest_le_one
      rw [List.length_append]
      omega

end Resolver

theorem Agenda.remaining_filter_le (agenda : Agenda) (known : List ClassName)
    (keeps : ClassName → Bool) :
    agenda.remaining (known.filter keeps) ≤ agenda.pending.length + (distinct known).length := by
  have fewer : agenda.unseen (known.filter keeps) ⊆ distinct known := by
    intro name unseen
    have kept := mem_distinct.mp (List.mem_of_mem_filter unseen)
    exact mem_distinct.mpr (List.mem_of_mem_filter kept)
  have once : (agenda.unseen (known.filter keeps)).Nodup := (nodup_distinct _).filter _
  have bound := (once.subperm fewer).length_le
  unfold remaining
  omega

namespace Resolver

/-- Whatever a snapshot holds, and whatever waits: draining against it comes to an end. It
takes at most the names that wait at its start and the distinct names that the classes of
the snapshot mention, and only names that it has taken are ever loaded. -/
theorem length_drainTaken_le (whitelist : Whitelist) (snapshot : Snapshot) (resolver : Resolver)
    (journal : Snapshot.Journal) :
    ∃ ends : Ends whitelist snapshot.source resolver.begin journal,
      (resolver.drainTaken whitelist snapshot.source journal ends).length ≤
          resolver.agenda.pending.length + (distinct snapshot.mentioned).length ∧
        (resolver.loads whitelist snapshot.source journal ends).Sublist
          (resolver.drainTaken whitelist snapshot.source journal ends) := by
  have bounded : ∀ name journal decl later,
      snapshot.source.load name journal = (.ok decl, later) →
        ∀ other ∈ decl.mentioned, other ∈ snapshot.mentioned := by
    intro name journal decl later loaded other mem
    exact Snapshot.mem_mentioned_of_load (Prod.mk.inj loaded).left mem
  have ends := ends_of_finite snapshot.finite_source whitelist resolver.begin journal
  refine ⟨ends, ?_, loads_sublist_drainTaken ends⟩
  unfold drainTaken
  split
  · exact Nat.zero_le _
  · apply Nat.le_trans (length_taken_le bounded ends)
    exact resolver.agenda.remaining_filter_le snapshot.mentioned whitelist.admits

end Resolver
end ClassAtlas
