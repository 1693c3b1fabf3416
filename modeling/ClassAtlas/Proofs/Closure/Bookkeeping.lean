import ClassAtlas.Proofs.Closure.History

/-!
# The books of a resolver

Between two operations a resolver is idle or drained, never at work. What it has
done is what it has mapped and what it has found missing, and nothing is counted
twice.
-/

namespace ClassAtlas

namespace Resolver

/-!
# Resting
-/

def Rests (resolver : Resolver) : Prop :=
  resolver.phase = .idle ∨ resolver.phase = .drained

theorem Rests.of_idle_or_same {resolver next : Resolver} (rests : Rests resolver)
    (either : next.phase = .idle ∨ next.phase = resolver.phase) : Rests next := by
  rcases either with idle | same
  · exact Or.inl idle
  · unfold Rests
    rw [same]
    exact rests

theorem Rests.addTodo {resolver : Resolver} (rests : Rests resolver) (name : ClassName)
    (origin : Origin) : Rests (resolver.addTodo name origin) := by
  apply rests.of_idle_or_same
  rw [addTodo_eq]
  simp only
  split
  · exact Or.inl rfl
  · exact Or.inr rfl

theorem Rests.noteSeed {resolver : Resolver} (rests : Rests resolver) (name : ClassName) :
    Rests (resolver.noteSeed name) := by
  apply rests.of_idle_or_same
  unfold Resolver.noteSeed
  simp only
  split
  · exact Or.inl rfl
  · exact Or.inr rfl

theorem Rests.addSeed {resolver : Resolver} (rests : Rests resolver) (name : ClassName) :
    Rests (resolver.addSeed name) :=
  (rests.noteSeed name).addTodo name .seed

theorem Rests.addSeeds {resolver : Resolver} (rests : Rests resolver) (names : List ClassName) :
    Rests (resolver.addSeeds names) := by
  induction names generalizing resolver with
  | nil => exact rests
  | cons first rest ih => exact ih (rests.addSeed first)

variable {whitelist : Whitelist}

theorem rests_drain {source : ClassSource σ} (resolver : Resolver) (state : σ)
    (ends : Ends whitelist source resolver.begin state) :
    Rests (resolver.drain whitelist source state ends).2.1 := by
  have outcome := drain_outcome (fun _ _ _ _ _ _ => trivial) ends fun _ => trivial
  generalize resolver.drain whitelist source state ends = result at outcome
  cases outcome with
  | overdue found => exact Or.inl rfl
  | through holds nothing => exact Or.inr rfl
  | stopped holds stops => exact Or.inl rfl

theorem History.rests {events : List Event} {resolver : Resolver}
    (history : History whitelist events resolver) : Rests resolver := by
  induction history with
  | start => exact Or.inl rfl
  | seeded earlier name ih => exact ih.addSeed name
  | queued earlier name origin ih => exact ih.addTodo name origin
  | listed earlier source state ih =>
      rw [seedPackages_eq]
      exact ih.addSeeds _
  | drained earlier source state ends ih => exact rests_drain _ state ends

/-!
# Accounts
-/

theorem Coherent.done_perm {resolver : Resolver} (coherent : Coherent whitelist resolver) :
    resolver.agenda.done.Perm (resolver.names ++ resolver.missing) := by
  have disjoint : resolver.names.Disjoint resolver.missing :=
    fun name isBuilt isMissing => coherent.apart name isBuilt isMissing
  have nodup : (resolver.names ++ resolver.missing).Nodup :=
    coherent.names_nodup.append coherent.missing_nodup disjoint
  refine (List.perm_ext_iff_of_nodup coherent.agenda.done_nodup nodup).mpr ?_
  intro name
  rw [coherent.done_iff, List.mem_append]

/-- What holds of a resolver between two operations. -/
structure Balanced (whitelist : Whitelist) (resolver : Resolver) : Prop where
  done_perm : resolver.agenda.done.Perm (resolver.names ++ resolver.missing)
  names_nodup : resolver.names.Nodup
  missing_nodup : resolver.missing.Nodup
  apart : resolver.names.Disjoint resolver.missing
  admitted : ∀ name ∈ resolver.names ++ resolver.missing, whitelist.admits name = true
  fullName : ∀ item ∈ resolver.classes, item.2.fullName = item.1
  seeds_nodup : resolver.seeds.Nodup
  rests : resolver.phase = .idle ∨ resolver.phase = .drained
  quiet : resolver.phase = .drained → resolver.agenda.pending = []

/-- Whatever is asked of a resolver and however its sources behave, its books balance. -/
theorem balanced_of_history {events : List Event} {resolver : Resolver}
    (history : History whitelist events resolver) : Balanced whitelist resolver := by
  have sound := history.sound
  have coherent := sound.coherent
  have done_perm := coherent.done_perm
  constructor
  · exact done_perm
  · exact coherent.names_nodup
  · exact coherent.missing_nodup
  · exact fun name isBuilt isMissing => coherent.apart name isBuilt isMissing
  · intro name counted
    exact coherent.admitted name (done_perm.mem_iff.mpr counted)
  · intro item mem
    exact sound.fullName mem
  · exact coherent.seeds_nodup
  · exact history.rests
  · exact coherent.quiet

open ClassDecl (overloaded) in
theorem balanced_of_history_overloaded :
    ∃ events resolver, History (Whitelist.ofRules [.package "a"]) events resolver ∧
      resolver.phase = .drained ∧ resolver.names = [overloaded.name] ∧
      resolver.missing = [⟨"a.Gone"⟩] ∧
      Balanced (Whitelist.ofRules [.package "a"]) resolver := by
  rcases build_overloaded with ⟨entry, built⟩
  rcases drain_overloaded built with ⟨ends, last, later, drained, classes, missing⟩
  have history := (History.start.addSeeds [overloaded.name]).drained
    (Snapshot.ofDecls [overloaded]).source [] ends
  rw [drained] at history
  have names : last.finish.names = [overloaded.name] := by
    rw [names_finish, Resolver.names, classes]
    rfl
  exact ⟨_, last.finish, history, rfl, names, missing, balanced_of_history history⟩

end Resolver
end ClassAtlas
