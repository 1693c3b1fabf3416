import ClassAtlas.Proofs.Closure.Reachability

/-!
# Settled resolvers

A settled resolver has nothing left to do, and its entries are the declarations of
a snapshot, built and finished. Which names it has done then decides everything
else: two settled resolvers that have done the same names hold the same entries
and miss the same classes. Draining a settled resolver leaves it as it is.
-/

namespace ClassAtlas

namespace Resolver

structure Settled (snapshot : Snapshot) (whitelist : Whitelist) (resolver : Resolver) :
    Prop where
  sound : Sound whitelist snapshot.Serves resolver
  through : resolver.agenda.pending = []
  finished : resolver.classes ≠ [] → resolver.phase = .drained
  absent : ∀ name ∈ resolver.missing, ¬snapshot.Holds name

variable {whitelist : Whitelist} {snapshot : Snapshot} {resolver other : Resolver}

theorem settled_start (snapshot : Snapshot) (whitelist : Whitelist) :
    Settled snapshot whitelist start where
  sound := sound_start whitelist snapshot.Serves
  through := rfl
  finished := fun present => absurd rfl present
  absent := fun _ isMissing => nomatch isMissing

theorem Settled.exists_rooted (settled : Settled snapshot whitelist resolver)
    {item : ClassName × ClassEntry} (mem : item ∈ resolver.classes) :
    ∃ decl built, Rooted whitelist snapshot.Serves resolver item.1 item.2 decl built ∧
      item.2 = finishEntry resolver.missing (aliases resolver.entries) built := by
  rcases settled.sound.rooted item mem with ⟨decl, built, rooted⟩
  exact ⟨decl, built, rooted, rooted.finished (settled.finished (List.ne_nil_of_mem mem))⟩

theorem Settled.mem_names_iff (settled : Settled snapshot whitelist resolver)
    {name : ClassName} :
    name ∈ resolver.names ↔ name ∈ resolver.agenda.done ∧ snapshot.Holds name := by
  rw [settled.sound.coherent.done_iff]
  constructor
  · intro isBuilt
    rcases List.mem_map.mp isBuilt with ⟨item, mem, rfl⟩
    rcases settled.exists_rooted mem with ⟨decl, built, rooted, _⟩
    exact ⟨Or.inl isBuilt, decl, rooted.served⟩
  · intro both
    rcases both with ⟨isBuilt | isMissing, holds⟩
    · exact isBuilt
    · exact absurd holds (settled.absent name isMissing)

theorem Settled.mem_missing_iff (settled : Settled snapshot whitelist resolver)
    {name : ClassName} :
    name ∈ resolver.missing ↔ name ∈ resolver.agenda.done ∧ ¬snapshot.Holds name := by
  rw [settled.sound.coherent.done_iff]
  constructor
  · intro isMissing
    exact ⟨Or.inr isMissing, settled.absent name isMissing⟩
  · intro both
    rcases both with ⟨isBuilt | isMissing, absent⟩
    · exact absurd (settled.mem_names_iff.mp isBuilt).right absent
    · exact isMissing

/-!
# Agreement
-/

theorem Settled.exists_counterpart (settled : Settled snapshot whitelist resolver)
    (settledOther : Settled snapshot whitelist other)
    (sameDone : ∀ name, name ∈ resolver.agenda.done ↔ name ∈ other.agenda.done)
    {item : ClassName × ClassEntry} (mem : item ∈ resolver.classes) :
    ∃ entry decl built, (item.1, entry) ∈ other.classes ∧
      Rooted whitelist snapshot.Serves resolver item.1 item.2 decl built ∧
      item.2 = finishEntry resolver.missing (aliases resolver.entries) built ∧
      Rooted whitelist snapshot.Serves other item.1 entry decl built ∧
      entry = finishEntry other.missing (aliases other.entries) built := by
  have isBuilt : item.1 ∈ resolver.names := List.mem_map_of_mem mem
  have isBuiltThere : item.1 ∈ other.names := by
    rw [settledOther.mem_names_iff, ← sameDone]
    exact settled.mem_names_iff.mp isBuilt
  rcases List.mem_map.mp isBuiltThere with ⟨⟨name, entry⟩, inOther, named⟩
  change name = item.1 at named
  rw [named] at inOther
  rcases settled.exists_rooted mem with ⟨decl, built, rooted, finished⟩
  rcases settledOther.exists_rooted inOther with ⟨declThere, builtThere, rootedThere, finishedThere⟩
  have sameDecl : declThere = decl :=
    Except.ok.inj (rootedThere.served.symm.trans rooted.served)
  rw [sameDecl] at rootedThere
  have sameBuilt : builtThere = built :=
    Except.ok.inj (rootedThere.made.symm.trans rooted.made)
  rw [sameBuilt] at rootedThere finishedThere
  exact ⟨entry, decl, built, inOther, rooted, finished, rootedThere, finishedThere⟩

theorem Settled.keepsAliases (settled : Settled snapshot whitelist resolver)
    (settledOther : Settled snapshot whitelist other)
    (sameDone : ∀ name, name ∈ resolver.agenda.done ↔ name ∈ other.agenda.done) :
    KeepsAliases (aliases resolver.entries) (aliases other.entries) := by
  apply keepsAliases_of_counterparts settled.sound.fullNames_nodup
    settledOther.sound.fullNames_nodup
  intro entry inEntries
  rcases List.mem_map.mp inEntries with ⟨item, mem, rfl⟩
  rcases settled.exists_counterpart settledOther sameDone mem with
    ⟨entry, decl, built, inOther, rooted, _, rootedThere, _⟩
  refine ⟨entry, List.mem_map_of_mem inOther, ?_, ?_, ?_⟩
  · rw [rootedThere.fullName, rooted.fullName]
  · rw [rootedThere.shortName, rooted.shortName]
  · rw [rootedThere.isPrimitive, rooted.isPrimitive]

theorem Settled.mem_missing_congr (settled : Settled snapshot whitelist resolver)
    (settledOther : Settled snapshot whitelist other)
    (sameDone : ∀ name, name ∈ resolver.agenda.done ↔ name ∈ other.agenda.done)
    (name : ClassName) : name ∈ resolver.missing ↔ name ∈ other.missing := by
  rw [settled.mem_missing_iff, settledOther.mem_missing_iff, sameDone]

theorem Settled.classes_subset (settled : Settled snapshot whitelist resolver)
    (settledOther : Settled snapshot whitelist other)
    (sameDone : ∀ name, name ∈ resolver.agenda.done ↔ name ∈ other.agenda.done) :
    resolver.classes ⊆ other.classes := by
  intro item mem
  rcases settled.exists_counterpart settledOther sameDone mem with
    ⟨entry, decl, built, inOther, _, finished, _, finishedThere⟩
  have keeps := settled.keepsAliases settledOther sameDone
  have keepsBack := settledOther.keepsAliases settled fun name => (sameDone name).symm
  have same := finishEntry_congr (settled.mem_missing_congr settledOther sameDone)
    (keeps.aliasOf?_eq keepsBack) built
  rw [← finished, ← finishedThere] at same
  rw [← same] at inOther
  exact inOther

/-- Two settled resolvers that have done the same names have the same entries and miss
the same classes, up to their order. -/
theorem Settled.perm (settled : Settled snapshot whitelist resolver)
    (settledOther : Settled snapshot whitelist other)
    (sameDone : ∀ name, name ∈ resolver.agenda.done ↔ name ∈ other.agenda.done) :
    resolver.classes.Perm other.classes ∧ resolver.missing.Perm other.missing := by
  have coherent := settled.sound.coherent
  have coherentOther := settledOther.sound.coherent
  constructor
  · refine (List.perm_ext_iff_of_nodup (List.Nodup.of_map Prod.fst coherent.names_nodup)
      (List.Nodup.of_map Prod.fst coherentOther.names_nodup)).mpr fun item => ⟨?_, ?_⟩
    · exact fun mem => settled.classes_subset settledOther sameDone mem
    · exact fun mem => settledOther.classes_subset settled (fun name => (sameDone name).symm) mem
  · exact (List.perm_ext_iff_of_nodup coherent.missing_nodup coherentOther.missing_nodup).mpr
      (settled.mem_missing_congr settledOther sameDone)

/-!
# Draining again
-/

theorem Settled.finish_begin (settled : Settled snapshot whitelist resolver) :
    resolver.begin.finish = { resolver with phase := .drained } := by
  have classes : resolver.begin.finish.classes = resolver.classes := by
    rw [classes_finish]
    refine (List.map_congr_left fun item mem => ?_).trans (List.map_id resolver.classes)
    rcases settled.exists_rooted mem with ⟨decl, built, _, finished⟩
    have again := finishEntry_finishEntry (List.Subset.refl resolver.missing)
      (fun _ _ (found : aliasOf? (aliases resolver.entries) _ = some _) => found) built
    rw [← finished] at again
    exact congrArg (Prod.mk item.1) again
  have parts : resolver.begin.finish =
      { resolver with phase := .drained, classes := resolver.begin.finish.classes } := rfl
  rw [parts, classes]

/-- Draining a settled resolver asks its source for nothing and changes nothing but the
phase. -/
theorem Settled.drain (settled : Settled snapshot whitelist resolver)
    (notOverdue : resolver.overdueSeed? = none) {source : ClassSource σ} (state : σ)
    (ends : Ends whitelist source resolver.begin state) :
    resolver.drain whitelist source state ends =
      (.ok (), { resolver with phase := .drained }, state) := by
  have through : resolver.begin.agenda.pending = [] := settled.through
  rw [drain_of_run_ok notOverdue (run_of_through through ends), settled.finish_begin]

end Resolver
end ClassAtlas
