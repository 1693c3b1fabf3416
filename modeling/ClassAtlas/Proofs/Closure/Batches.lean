import ClassAtlas.Proofs.Closure.Agreement

/-!
# Requests in batches

Requests may come in any order, repeatedly, and in batches with a run after each.
Against an available snapshot this makes no difference: a finished resolution
confines every other one for the same requests to what it has done itself.
-/

namespace ClassAtlas

namespace Resolver

/-- Asks for the names of each batch and drains, batch after batch, until a run fails. -/
def drainBatches (whitelist : Whitelist) (source : ClassSource σ) (finite : source.Finite) :
    List (List ClassName) → Resolver → σ → Except Failure Unit × Resolver × σ
  | [], resolver, state => (.ok (), resolver, state)
  | batch :: rest, resolver, state =>
      match (resolver.addSeeds batch).drain whitelist source state
          (ends_of_finite finite whitelist (resolver.addSeeds batch).begin state) with
      | (.ok (), next, later) => drainBatches whitelist source finite rest next later
      | (.error failure, next, later) => (.error failure, next, later)

variable {whitelist : Whitelist} {snapshot : Snapshot} {seeds earlier batch : List ClassName}
  {resolver : Resolver}

/-!
# Resolving a batch
-/

/-- The requests are met: those that are admitted are mapped. -/
structure Resolved (snapshot : Snapshot) (whitelist : Whitelist) (seeds : List ClassName)
    (resolver : Resolver) : Prop where
  settled : Settled snapshot whitelist resolver
  listed : ∀ name ∈ resolver.seeds, name ∈ seeds
  mapped : ∀ name ∈ seeds, whitelist.admits name = true → name ∈ resolver.names

/-- The requests are being met. -/
structure Resolving (snapshot : Snapshot) (whitelist : Whitelist) (seeds : List ClassName)
    (resolver : Resolver) : Prop where
  running : Running whitelist snapshot.Serves resolver
  listed : ∀ name ∈ resolver.seeds, name ∈ seeds
  kept : ∀ name ∈ seeds, whitelist.admits name = true → Awaits name resolver
  absent : ∀ name ∈ resolver.missing, ¬snapshot.Holds name

theorem Resolving.step {next : Resolver} {journal later : Snapshot.Journal}
    (resolving : Resolving snapshot whitelist seeds resolver)
    (step : Step whitelist snapshot.source resolver journal next later) :
    Resolving snapshot whitelist seeds next where
  running := resolving.running.step snapshot.serves_source step
  listed := fun name mem => resolving.listed name (step.seeds ▸ mem)
  kept := fun name mem admitted =>
    (resolving.kept name mem admitted).step admitted resolving.running.left.coherent step
  absent := step.absent resolving.absent

theorem resolved_start (snapshot : Snapshot) (whitelist : Whitelist) :
    Resolved snapshot whitelist [] start where
  settled := settled_start snapshot whitelist
  listed := fun _ mem => nomatch mem
  mapped := fun _ mem => nomatch mem

theorem Resolved.begin (resolved : Resolved snapshot whitelist earlier resolver)
    (notOverdue : (resolver.addSeeds batch).overdueSeed? = none) :
    Resolving snapshot whitelist (earlier ++ batch) (resolver.addSeeds batch).begin := by
  have sound := resolved.settled.sound
  constructor
  · exact (sound.addSeeds batch).running_begin
  · intro name mem
    rcases mem_seeds_addSeeds.mp mem with isNew | old
    · exact List.mem_append_right _ isNew
    · exact List.mem_append_left _ (resolved.listed name old)
  · intro name mem admitted
    rcases List.mem_append.mp mem with old | isNew
    · refine Or.inr ?_
      show name ∈ (resolver.addSeeds batch).names
      rw [names_addSeeds]
      exact resolved.mapped name old admitted
    · have honours := honours_addSeeds isNew resolver
      rcases honours.taken with waits | isDone
      · exact Or.inl waits
      · rcases ((sound.addSeeds batch).coherent.done_iff name).mp isDone with isBuilt | isMissing
        · exact Or.inr isBuilt
        · exact absurd isMissing (overdueSeed?_eq_none_iff.mp notOverdue name honours.listed)
  · intro name isMissing
    change name ∈ (resolver.addSeeds batch).missing at isMissing
    rw [missing_addSeeds] at isMissing
    exact resolved.settled.absent name isMissing

theorem Resolving.finish (resolving : Resolving snapshot whitelist seeds resolver)
    (nothing : resolver.agenda.pending = []) :
    Resolved snapshot whitelist seeds resolver.finish := by
  refine ⟨⟨resolving.running.left.finish nothing, nothing, fun _ => rfl, resolving.absent⟩,
    resolving.listed, ?_⟩
  intro name mem admitted
  rw [names_finish]
  rcases resolving.kept name mem admitted with waits | isBuilt
  · rw [nothing] at waits
    cases waits
  · exact isBuilt

theorem Resolved.of_drain (resolved : Resolved snapshot whitelist earlier resolver)
    {next : Resolver} {journal later : Snapshot.Journal}
    {ends : Ends whitelist snapshot.source (resolver.addSeeds batch).begin journal}
    (succeeded : (resolver.addSeeds batch).drain whitelist snapshot.source journal ends =
      (.ok (), next, later)) :
    Resolved snapshot whitelist (earlier ++ batch) next := by
  have outcome := drain_outcome
    (fun _ _ _ _ (resolving : Resolving snapshot whitelist (earlier ++ batch) _) step =>
      resolving.step step) ends fun notOverdue => resolved.begin notOverdue
  rw [succeeded] at outcome
  cases outcome with
  | through resolving nothing => exact resolving.finish nothing

/-!
# Bounds

A bound is a resolver that has met all the requests. A run for some of them is
confined to what the bound has done, and therefore succeeds.
-/

variable {bound : Resolver}

theorem Settled.closed_done (settled : Settled snapshot whitelist bound) :
    Closed snapshot whitelist (· ∈ bound.agenda.done) := by
  intro name decl isDone held resolved entry references built other referred admitted
  have isBuilt := settled.mem_names_iff.mpr ⟨isDone, decl, held⟩
  rcases List.mem_map.mp isBuilt with ⟨item, mem, rfl⟩
  rcases settled.exists_rooted mem with ⟨served, first, rooted, _⟩
  have sameDecl : served = decl := Except.ok.inj (rooted.served.symm.trans held)
  rw [sameDecl] at rooted
  have made := (ClassDecl.build_eq_ok_iff.mp built).left
  have sameEntry : first = entry := Except.ok.inj (rooted.made.symm.trans made)
  rcases ClassDecl.exists_mentions_of_toEntry made with ⟨names, mentioned⟩
  have inNames := ((ClassDecl.mem_references_of_build built mentioned).mp referred).left
  rcases rooted.covered names (sameEntry ▸ mentioned) other inNames admitted with there | waits
  · exact there
  · rw [Agenda.waiting, settled.through] at waits
    cases waits

theorem Settled.exists_entry (settled : Settled snapshot whitelist bound) {name : ClassName}
    (isDone : name ∈ bound.agenda.done) {decl : ClassDecl} (held : snapshot.load name = .ok decl) :
    ∃ entry, decl.toEntry whitelist.registry = .ok entry := by
  have isBuilt := settled.mem_names_iff.mpr ⟨isDone, decl, held⟩
  rcases List.mem_map.mp isBuilt with ⟨item, mem, rfl⟩
  rcases settled.exists_rooted mem with ⟨served, entry, rooted, _⟩
  have sameDecl : served = decl := Except.ok.inj (rooted.served.symm.trans held)
  exact ⟨entry, sameDecl ▸ rooted.made⟩

theorem Resolved.overdueSeed? (resolved : Resolved snapshot whitelist earlier resolver)
    (resolvedBound : Resolved snapshot whitelist seeds bound)
    (subset : earlier ++ batch ⊆ seeds) :
    (resolver.addSeeds batch).overdueSeed? = none := by
  rw [overdueSeed?_eq_none_iff, missing_addSeeds]
  intro name listed isMissing
  have inSeeds : name ∈ seeds := by
    rcases mem_seeds_addSeeds.mp listed with isNew | old
    · exact subset (List.mem_append_right _ isNew)
    · exact subset (List.mem_append_left _ (resolved.listed name old))
  have coherent := resolved.settled.sound.coherent
  have admitted := coherent.admitted name ((coherent.done_iff name).mpr (Or.inr isMissing))
  have isBuilt := resolvedBound.mapped name inSeeds admitted
  exact resolved.settled.absent name isMissing
    (resolvedBound.settled.mem_names_iff.mp isBuilt).right

theorem Resolved.exists_drain (resolved : Resolved snapshot whitelist earlier resolver)
    (resolvedBound : Resolved snapshot whitelist seeds bound)
    (available : snapshot.unavailable = none) (subset : earlier ++ batch ⊆ seeds)
    (bounded : resolver.agenda.done ⊆ bound.agenda.done) {journal : Snapshot.Journal}
    (ends : Ends whitelist snapshot.source (resolver.addSeeds batch).begin journal) :
    ∃ next later, (resolver.addSeeds batch).drain whitelist snapshot.source journal ends =
      (.ok (), next, later) ∧ next.agenda.done ⊆ bound.agenda.done := by
  have notOverdue := resolved.overdueSeed? resolvedBound subset
  have done : ∀ name ∈ seeds, whitelist.admits name = true →
      name ∈ bound.agenda.done ∧ snapshot.Holds name :=
    fun name mem admitted => resolvedBound.settled.mem_names_iff.mp
      (resolvedBound.mapped name mem admitted)
  have inSeeds : batch ⊆ seeds := (List.append_subset.mp subset).right
  have confined : Confined whitelist (· ∈ bound.agenda.done) seeds
      (resolver.addSeeds batch).begin :=
    confined_begin resolved.settled.through (fun _ isDone => bounded isDone) inSeeds
      fun name mem admitted => (done name (inSeeds mem) admitted).left
  have preserved : ∀ (resolver : Resolver) (journal : Snapshot.Journal) next later,
      Running whitelist snapshot.Serves resolver ∧
          Confined whitelist (· ∈ bound.agenda.done) seeds resolver →
        Step whitelist snapshot.source resolver journal next later →
          Running whitelist snapshot.Serves next ∧
            Confined whitelist (· ∈ bound.agenda.done) seeds next := by
    intro resolver journal next later both step
    rcases both with ⟨running, confined⟩
    exact ⟨running.step snapshot.serves_source step,
      confined.step resolvedBound.settled.closed_done running.left.coherent step⟩
  have outcome := drain_outcome preserved ends fun _ =>
    ⟨(resolved.settled.sound.addSeeds batch).running_begin, confined⟩
  generalize (resolver.addSeeds batch).drain whitelist snapshot.source journal ends = result
    at outcome
  cases outcome with
  | overdue found =>
      rw [notOverdue] at found
      cases found
  | stopped both stops =>
      refine absurd stops (both.right.not_stops available ?_ ?_)
      · exact fun name mem admitted => (done name mem admitted).right
      · exact fun name decl isDone held => resolvedBound.settled.exists_entry isDone held
  | @through last later both nothing =>
      refine ⟨last.finish, later, rfl, ?_⟩
      intro name isDone
      have admitted := both.left.left.coherent.admitted name isDone
      exact both.right.known name (Or.inl isDone) admitted

/-!
# All batches
-/

/-- Every batch is met, or the run stops at the first that fails. -/
theorem Resolved.of_drainBatches {batches : List (List ClassName)}
    (resolved : Resolved snapshot whitelist earlier resolver) {last : Resolver}
    {journal later : Snapshot.Journal}
    (succeeded : drainBatches whitelist snapshot.source snapshot.finite_source batches resolver
      journal = (.ok (), last, later)) :
    Resolved snapshot whitelist (earlier ++ batches.flatten) last := by
  induction batches generalizing earlier resolver journal with
  | nil =>
      rcases Prod.mk.inj succeeded with ⟨_, same⟩
      rw [← (Prod.mk.inj same).left, List.flatten_nil, List.append_nil]
      exact resolved
  | cons batch rest ih =>
      rw [List.flatten_cons, ← List.append_assoc]
      unfold drainBatches at succeeded
      split at succeeded
      · next next after drained => exact ih (resolved.of_drain drained) succeeded
      · cases succeeded

theorem Resolved.exists_drainBatches {batches : List (List ClassName)}
    (resolved : Resolved snapshot whitelist earlier resolver)
    (resolvedBound : Resolved snapshot whitelist seeds bound)
    (available : snapshot.unavailable = none) (subset : earlier ++ batches.flatten ⊆ seeds)
    (bounded : resolver.agenda.done ⊆ bound.agenda.done) (journal : Snapshot.Journal) :
    ∃ last later, drainBatches whitelist snapshot.source snapshot.finite_source batches resolver
      journal = (.ok (), last, later) ∧ last.agenda.done ⊆ bound.agenda.done := by
  induction batches generalizing earlier resolver journal with
  | nil => exact ⟨resolver, journal, rfl, bounded⟩
  | cons batch rest ih =>
      rw [List.flatten_cons, ← List.append_assoc] at subset
      have first : earlier ++ batch ⊆ seeds := fun name mem =>
        subset (List.mem_append_left _ mem)
      rcases resolved.exists_drain resolvedBound available first bounded
          (ends_of_finite snapshot.finite_source whitelist (resolver.addSeeds batch).begin journal)
        with ⟨next, after, drained, nextBounded⟩
      rcases ih (resolved.of_drain drained) subset nextBounded after with
        ⟨last, later, succeeded, lastBounded⟩
      refine ⟨last, later, ?_, lastBounded⟩
      rw [drainBatches, drained]
      exact succeeded

/-- Whatever can be met in some batches can be met in others, with no more work. -/
theorem exists_drainBatches_of_subset (available : snapshot.unavailable = none)
    {batches others : List (List ClassName)} (subset : others.flatten ⊆ batches.flatten)
    {last : Resolver} {journal later : Snapshot.Journal}
    (succeeded : drainBatches whitelist snapshot.source snapshot.finite_source batches start
      journal = (.ok (), last, later)) (other : Snapshot.Journal) :
    ∃ next after, drainBatches whitelist snapshot.source snapshot.finite_source others start
      other = (.ok (), next, after) ∧ next.agenda.done ⊆ last.agenda.done :=
  (resolved_start snapshot whitelist).exists_drainBatches
    ((resolved_start snapshot whitelist).of_drainBatches succeeded) available subset
    (List.nil_subset _) other

theorem done_subset_of_drainBatches (available : snapshot.unavailable = none)
    {batches others : List (List ClassName)} (subset : others.flatten ⊆ batches.flatten)
    {last next : Resolver} {journal other later after : Snapshot.Journal}
    (succeeded : drainBatches whitelist snapshot.source snapshot.finite_source batches start
      journal = (.ok (), last, later))
    (succeededToo : drainBatches whitelist snapshot.source snapshot.finite_source others start
      other = (.ok (), next, after)) : next.agenda.done ⊆ last.agenda.done := by
  rcases exists_drainBatches_of_subset available subset succeeded other with
    ⟨_, _, again, bounded⟩
  rw [succeededToo] at again
  cases again
  exact bounded

theorem drainBatches_singleton (whitelist : Whitelist) (source : ClassSource σ)
    (finite : source.Finite) (batch : List ClassName) (resolver : Resolver) (state : σ) :
    drainBatches whitelist source finite [batch] resolver state =
      (resolver.addSeeds batch).drain whitelist source state
        (ends_of_finite finite whitelist (resolver.addSeeds batch).begin state) := by
  rw [drainBatches]
  split
  · next next later drained => rw [drained, drainBatches]
  · next failure next later drained => rw [drained]

theorem resolve_iff_drainBatches {journal later : Snapshot.Journal} {atlas : Atlas} :
    whitelist.resolve snapshot.source snapshot.finite_source seeds journal = (.ok atlas, later) ↔
      ∃ last, drainBatches whitelist snapshot.source snapshot.finite_source [seeds] start
        journal = (.ok (), last, later) ∧ atlas = ⟨last.seeds, last.classes, last.missing⟩ := by
  rw [drainBatches_singleton]
  exact resolve_eq_ok_iff

theorem phase_of_drainBatches {source : ClassSource σ} {finite : source.Finite}
    {batches : List (List ClassName)} (nonempty : batches ≠ []) {last : Resolver} {state later : σ}
    (succeeded : drainBatches whitelist source finite batches resolver state =
      (.ok (), last, later)) : last.phase = .drained := by
  induction batches generalizing resolver state with
  | nil => exact absurd rfl nonempty
  | cons batch rest ih =>
      unfold drainBatches at succeeded
      split at succeeded
      · next next after drained =>
          cases rest with
          | nil =>
              rcases Prod.mk.inj succeeded with ⟨_, same⟩
              rcases exists_finish_of_drain drained with ⟨ended, finished, _⟩
              rw [← (Prod.mk.inj same).left, finished]
              rfl
          | cons second others => exact ih (List.cons_ne_nil second others) succeeded
      · cases succeeded

/-!
# Order and batches make no difference
-/

/-- Asking for the same classes in any order, repeatedly and in batches succeeds exactly
if a resolution does. Both then map the same classes to the same entries and miss the
same classes, and another run changes nothing and asks its source for nothing. -/
theorem drainBatches_iff_resolve (available : snapshot.unavailable = none)
    {batches : List (List ClassName)} (same : ∀ name, name ∈ batches.flatten ↔ name ∈ seeds)
    (journal other : Snapshot.Journal) :
    ((∃ last later, drainBatches whitelist snapshot.source snapshot.finite_source batches start
        journal = (.ok (), last, later)) ↔
      ∃ atlas later, whitelist.resolve snapshot.source snapshot.finite_source seeds other =
        (.ok atlas, later)) ∧
    ∀ last atlas later after,
      drainBatches whitelist snapshot.source snapshot.finite_source batches start journal =
        (.ok (), last, later) →
      whitelist.resolve snapshot.source snapshot.finite_source seeds other = (.ok atlas, after) →
        last.names.Nodup ∧ last.classes.Perm atlas.classes ∧ last.missing.Perm atlas.missing ∧
        (batches ≠ [] → last.phase = .drained) ∧
        ∀ {τ : Type} (source : ClassSource τ) (state : τ)
          (ends : Ends whitelist source last.begin state),
          last.drain whitelist source state ends =
            (.ok (), { last with phase := .drained }, state) := by
  have toOne : [seeds].flatten ⊆ batches.flatten := by
    rw [List.flatten_singleton]
    exact fun name mem => (same name).mpr mem
  have toMany : batches.flatten ⊆ [seeds].flatten := by
    rw [List.flatten_singleton]
    exact fun name mem => (same name).mp mem
  constructor
  · constructor
    · intro succeeds
      rcases succeeds with ⟨last, later, succeeded⟩
      rcases exists_drainBatches_of_subset available toOne succeeded other with
        ⟨next, after, succeededToo, _⟩
      exact ⟨_, after, resolve_iff_drainBatches.mpr ⟨next, succeededToo, rfl⟩⟩
    · intro resolves
      rcases resolves with ⟨atlas, later, resolved⟩
      rcases resolve_iff_drainBatches.mp resolved with ⟨next, succeeded, _⟩
      rcases exists_drainBatches_of_subset available toMany succeeded journal with
        ⟨last, after, succeededToo, _⟩
      exact ⟨last, after, succeededToo⟩
  · intro last atlas later after succeeded resolved
    rcases resolve_iff_drainBatches.mp resolved with ⟨next, succeededNext, rfl⟩
    have met := (resolved_start snapshot whitelist).of_drainBatches succeeded
    have metNext := (resolved_start snapshot whitelist).of_drainBatches succeededNext
    have sameDone : ∀ name, name ∈ last.agenda.done ↔ name ∈ next.agenda.done := by
      intro name
      constructor
      · intro isDone
        exact done_subset_of_drainBatches available toMany succeededNext succeeded isDone
      · intro isDone
        exact done_subset_of_drainBatches available toOne succeeded succeededNext isDone
    have agree := met.settled.perm metNext.settled sameDone
    have notOverdue : last.overdueSeed? = none := met.overdueSeed? met (List.append_subset.mpr
      ⟨List.Subset.refl _, List.nil_subset _⟩)
    refine ⟨met.settled.sound.coherent.names_nodup, agree.left, agree.right,
      fun nonempty => phase_of_drainBatches nonempty succeeded, ?_⟩
    intro τ source state ends
    exact met.settled.drain notOverdue state ends

open ClassDecl (overloaded) in
theorem drainBatches_iff_resolve_overloaded :
    ∃ last atlas later after,
      drainBatches (Whitelist.ofRules [.package "a"]) (Snapshot.ofDecls [overloaded]).source
        (Snapshot.ofDecls [overloaded]).finite_source
        [[], [overloaded.name], [overloaded.name]] start [] = (.ok (), last, later) ∧
      (Whitelist.ofRules [.package "a"]).resolve (Snapshot.ofDecls [overloaded]).source
        (Snapshot.ofDecls [overloaded]).finite_source [overloaded.name] [] = (.ok atlas, after) ∧
      last.phase = .drained ∧ last.missing = [⟨"a.Gone"⟩] ∧
      last.classes.Perm atlas.classes := by
  rcases build_overloaded with ⟨entry, built⟩
  rcases drain_overloaded built with ⟨ends, once, after, drained, classes, missing⟩
  have resolved := resolve_eq_ok_iff.mpr ⟨once.finish, drained, rfl⟩
  have same : ∀ name, name ∈ [[], [overloaded.name], [overloaded.name]].flatten ↔
      name ∈ [overloaded.name] := by
    intro name
    simp
  have agrees := @drainBatches_iff_resolve (Whitelist.ofRules [.package "a"])
    (Snapshot.ofDecls [overloaded]) [overloaded.name] rfl _ same [] []
  rcases agrees.left.mpr ⟨_, after, resolved⟩ with ⟨last, later, succeeded⟩
  rcases agrees.right last _ later after succeeded resolved with
    ⟨_, sameClasses, sameMissing, finished, _⟩
  have gone : last.missing.Perm [⟨"a.Gone"⟩] := by
    rw [← missing]
    exact sameMissing
  exact ⟨last, _, later, after, succeeded, resolved, finished (List.cons_ne_nil _ _),
    List.perm_singleton.mp gone, sameClasses⟩

end Resolver
end ClassAtlas
