import ClassAtlas.Proofs.Closure.Aliases
import ClassAtlas.Proofs.Closure.Turns

/-!
# Coherent resolvers

What holds of a resolver whatever was asked of it: the names done are the classes
built and those missing, each once and admitted; every entry stems from a served
declaration; and whatever an entry mentions is done or waits.
-/

namespace ClassAtlas

namespace Resolver

def entries (resolver : Resolver) : List ClassEntry :=
  resolver.classes.map Prod.snd

structure Coherent (whitelist : Whitelist) (resolver : Resolver) : Prop where
  agenda : resolver.agenda.WellFormed
  done_iff : ∀ name,
    name ∈ resolver.agenda.done ↔ name ∈ resolver.names ∨ name ∈ resolver.missing
  names_nodup : resolver.names.Nodup
  missing_nodup : resolver.missing.Nodup
  seeds_nodup : resolver.seeds.Nodup
  apart : ∀ name ∈ resolver.names, name ∉ resolver.missing
  admitted : ∀ name ∈ resolver.agenda.done, whitelist.admits name = true
  quiet : resolver.phase = .drained → resolver.agenda.pending = []

/-- The entry of a class stems from a served declaration. However the resolver is
used from now on, it will be finished like the entry first built. -/
structure Rooted (whitelist : Whitelist) (served : ClassName → ClassDecl → Prop)
    (resolver : Resolver) (name : ClassName) (entry : ClassEntry) (decl : ClassDecl)
    (built : ClassEntry) : Prop where
  served : served name decl
  named : decl.name = name
  made : decl.toEntry whitelist.registry = .ok built
  covered : ∀ mentioned, built.mentions = .ok mentioned → ∀ other ∈ mentioned,
    whitelist.admits other = true → resolver.agenda.Knows other
  fullName : entry.fullName = built.fullName
  shortName : entry.shortName = built.shortName
  isPrimitive : entry.isPrimitive = built.isPrimitive
  finishes : ∀ missing aliased, resolver.missing ⊆ missing →
    KeepsAliases (aliases resolver.entries) aliased →
      finishEntry missing aliased entry = finishEntry missing aliased built
  finished : resolver.phase = .drained →
    entry = finishEntry resolver.missing (aliases resolver.entries) built

structure Sound (whitelist : Whitelist) (served : ClassName → ClassDecl → Prop)
    (resolver : Resolver) : Prop where
  coherent : Coherent whitelist resolver
  rooted : ∀ item ∈ resolver.classes,
    ∃ decl built, Rooted whitelist served resolver item.1 item.2 decl built

/-- Every answer of the source for a class that it was asked for counts as served. -/
def Serves (source : ClassSource σ) (served : ClassName → ClassDecl → Prop) : Prop :=
  ∀ name state decl later,
    source.load name state = (.ok decl, later) → decl.name = name → served name decl

def Answers (source : ClassSource σ) (name : ClassName) (decl : ClassDecl) : Prop :=
  ∃ state later, source.load name state = (.ok decl, later)

theorem serves_answers (source : ClassSource σ) : Serves source (Answers source) :=
  fun _ state _ later loaded _ => ⟨state, later, loaded⟩

variable {whitelist : Whitelist} {served : ClassName → ClassDecl → Prop}

theorem Rooted.mono {resolver next : Resolver} {name : ClassName} {entry built : ClassEntry}
    {decl : ClassDecl} (rooted : Rooted whitelist served resolver name entry decl built)
    (covers : ∀ other, whitelist.admits other = true →
      resolver.agenda.Knows other → next.agenda.Knows other)
    (grows : resolver.missing ⊆ next.missing)
    (keeps : KeepsAliases (aliases resolver.entries) (aliases next.entries))
    (still : next.phase = .drained → resolver.phase = .drained ∧
      next.missing = resolver.missing ∧ next.entries = resolver.entries) :
    Rooted whitelist served next name entry decl built := by
  refine { rooted with covered := ?_, finishes := ?_, finished := ?_ }
  · intro mentioned mentions other mem admitted
    exact covers other admitted (rooted.covered mentioned mentions other mem admitted)
  · intro missing aliased growsMore keepsMore
    exact rooted.finishes missing aliased (List.Subset.trans grows growsMore)
      (keeps.trans keepsMore)
  · intro drained
    rcases still drained with ⟨before, sameMissing, sameEntries⟩
    rw [sameMissing, sameEntries]
    exact rooted.finished before

theorem Sound.fullName {resolver : Resolver} (sound : Sound whitelist served resolver)
    {item : ClassName × ClassEntry} (mem : item ∈ resolver.classes) :
    item.2.fullName = item.1 := by
  rcases sound.rooted item mem with ⟨decl, built, rooted⟩
  rcases ClassDecl.parts_of_toEntry rooted.made with ⟨_, _, _, sameName, _⟩
  rw [rooted.fullName, sameName, rooted.named]

theorem Sound.fullNames_nodup {resolver : Resolver} (sound : Sound whitelist served resolver) :
    (resolver.entries.map ClassEntry.fullName).Nodup := by
  have sameNames : resolver.entries.map ClassEntry.fullName = resolver.names := by
    rw [entries, names, List.map_map]
    exact List.map_congr_left fun item mem => sound.fullName mem
  rw [sameNames]
  exact sound.coherent.names_nodup

/-!
# Steps
-/

/-- A name that is taken from the agenda is new to the resolver. -/
structure Taken (resolver : Resolver) (name : ClassName) (agenda : Agenda) : Prop where
  wellFormed : agenda.WellFormed
  notWaiting : name ∉ agenda.waiting
  fresh : name ∉ agenda.done
  done : agenda.done = resolver.agenda.done
  unbuilt : name ∉ resolver.names
  present : name ∉ resolver.missing

theorem Coherent.taken {resolver : Resolver} (coherent : Coherent whitelist resolver)
    {name : ClassName} {origin : Origin} {agenda : Agenda}
    (popped : resolver.agenda.pop? = some ((name, origin), agenda)) :
    Taken resolver name agenda := by
  rcases Agenda.wellFormed_pop? popped coherent.agenda with ⟨wellFormed, notWaiting, fresh⟩
  have done : agenda.done = resolver.agenda.done :=
    (Agenda.pop?_eq_some_iff.mp popped).right.symm
  refine ⟨wellFormed, notWaiting, fresh, done, ?_, ?_⟩
  · intro isBuilt
    apply fresh
    rw [done]
    exact (coherent.done_iff name).mpr (Or.inl isBuilt)
  · intro isMissing
    apply fresh
    rw [done]
    exact (coherent.done_iff name).mpr (Or.inr isMissing)

theorem Taken.not_idle {resolver : Resolver} {name : ClassName} {agenda : Agenda}
    (taken : Taken resolver name agenda) (admitted : whitelist.admits name = true) :
    ¬(name ∈ agenda.done ∨ whitelist.admits name = false) := by
  intro idle
  rcases idle with isDone | notAdmitted
  · exact taken.fresh isDone
  · rw [admitted] at notAdmitted
    cases notAdmitted

theorem names_settle (resolver : Resolver) (name : ClassName) (entry : ClassEntry)
    (references : List ClassName) :
    (resolver.settle name entry references).names = resolver.names ++ [name] := by
  simp [names, settle]

theorem entries_settle (resolver : Resolver) (name : ClassName) (entry : ClassEntry)
    (references : List ClassName) :
    (resolver.settle name entry references).entries = resolver.entries ++ [entry] := by
  simp [entries, settle]

theorem Coherent.settle {resolver : Resolver} (coherent : Coherent whitelist resolver)
    {name : ClassName} {origin : Origin} {agenda : Agenda}
    (popped : resolver.agenda.pop? = some ((name, origin), agenda))
    (admitted : whitelist.admits name = true) (active : resolver.phase ≠ .drained)
    (entry : ClassEntry) (references : List ClassName) :
    Coherent whitelist (Resolver.settle { resolver with agenda } name entry references) := by
  have taken := coherent.taken popped
  have done : ∀ other,
      other ∈ (Resolver.settle { resolver with agenda } name entry references).agenda.done ↔
        other ∈ resolver.agenda.done ∨ other = name := by
    intro other
    show other ∈ ((agenda.markDone name).addReferences references).done ↔ _
    rw [Agenda.done_addReferences, Agenda.mem_done_markDone, taken.done]
  refine { coherent with
    agenda := ?_, done_iff := ?_, names_nodup := ?_, apart := ?_, admitted := ?_, quiet := ?_ }
  · have marked := Agenda.wellFormed_markDone taken.wellFormed name
    exact Agenda.wellFormed_addReferences marked references
  · intro other
    rw [done, names_settle, coherent.done_iff, List.mem_append, List.mem_singleton]
    exact or_right_comm
  · rw [names_settle, ← List.concat_eq_append]
    exact coherent.names_nodup.concat taken.unbuilt
  · intro other mem
    rw [names_settle, List.mem_append, List.mem_singleton] at mem
    rcases mem with old | rfl
    · exact coherent.apart other old
    · exact taken.present
  · intro other isDone
    rcases (done other).mp isDone with old | rfl
    · exact coherent.admitted other old
    · exact admitted
  · intro drained
    exact absurd drained active

theorem Coherent.skip {resolver : Resolver} (coherent : Coherent whitelist resolver)
    {name : ClassName} {origin : Origin} {agenda : Agenda}
    (popped : resolver.agenda.pop? = some ((name, origin), agenda))
    (admitted : whitelist.admits name = true) (active : resolver.phase ≠ .drained) :
    Coherent whitelist (Resolver.skip { resolver with agenda } name) := by
  have taken := coherent.taken popped
  have done : ∀ other, other ∈ (agenda.markDone name).done ↔
      other ∈ resolver.agenda.done ∨ other = name := by
    intro other
    rw [Agenda.mem_done_markDone, taken.done]
  refine { coherent with
    agenda := Agenda.wellFormed_markDone taken.wellFormed _
    done_iff := ?_, missing_nodup := ?_, apart := ?_, admitted := ?_, quiet := ?_ }
  · intro other
    show other ∈ (agenda.markDone name).done ↔
      other ∈ resolver.names ∨ other ∈ resolver.missing ++ [name]
    rw [done, coherent.done_iff, List.mem_append, List.mem_singleton, or_assoc]
  · rw [Resolver.skip, ← List.concat_eq_append]
    exact coherent.missing_nodup.concat taken.present
  · intro other mem isMissing
    rcases List.mem_append.mp isMissing with old | isLast
    · exact coherent.apart other mem old
    · rw [List.mem_singleton.mp isLast] at mem
      exact taken.unbuilt mem
  · intro other isDone
    rcases (done other).mp isDone with old | rfl
    · exact coherent.admitted other old
    · exact admitted
  · intro drained
    exact absurd drained active

theorem Sound.pass {resolver : Resolver} (sound : Sound whitelist served resolver)
    {name : ClassName} {origin : Origin} {agenda : Agenda}
    (popped : resolver.agenda.pop? = some ((name, origin), agenda))
    (idle : name ∈ agenda.done ∨ whitelist.admits name = false)
    (active : resolver.phase ≠ .drained) :
    Sound whitelist served { resolver with agenda } := by
  have taken := sound.coherent.taken popped
  constructor
  · refine { sound.coherent with
      agenda := taken.wellFormed, done_iff := ?_, admitted := ?_, quiet := ?_ }
    · intro other
      show other ∈ agenda.done ↔ _
      rw [taken.done]
      exact sound.coherent.done_iff other
    · intro other isDone
      exact sound.coherent.admitted other (taken.done ▸ isDone)
    · intro drained
      exact absurd drained active
  · intro item mem
    rcases sound.rooted item mem with ⟨decl, built, rooted⟩
    refine ⟨decl, built, rooted.mono ?_ (List.Subset.refl _) (fun _ _ found => found) ?_⟩
    · intro other admitted known
      rcases (Agenda.knows_of_pop? popped).mp known with rfl | still
      · exact absurd idle (taken.not_idle admitted)
      · exact still
    · intro drained
      exact absurd drained active

theorem Sound.settle {resolver : Resolver} (sound : Sound whitelist served resolver)
    {name : ClassName} {origin : Origin} {agenda : Agenda} {decl : ClassDecl}
    {entry : ClassEntry} {references : List ClassName}
    (popped : resolver.agenda.pop? = some ((name, origin), agenda))
    (admitted : whitelist.admits name = true) (active : resolver.phase ≠ .drained)
    (isServed : served name decl) (named : decl.name = name)
    (built : decl.build whitelist agenda.done = .ok (entry, references)) :
    Sound whitelist served (Resolver.settle { resolver with agenda } name entry references) := by
  have knows : ∀ other, ((agenda.markDone name).addReferences references).Knows other ↔
      resolver.agenda.Knows other ∨ other ∈ references := by
    intro other
    rw [Agenda.knows_addReferences, Agenda.knows_markDone, ← Agenda.knows_of_pop? popped]
  constructor
  · exact sound.coherent.settle popped admitted active entry references
  · intro item mem
    rcases List.mem_append.mp mem with old | isLast
    · rcases sound.rooted item old with ⟨oldDecl, oldBuilt, rooted⟩
      refine ⟨oldDecl, oldBuilt, rooted.mono ?_ (List.Subset.refl _) ?_ ?_⟩
      · intro other _ known
        exact (knows other).mpr (Or.inl known)
      · rw [entries_settle]
        exact keepsAliases_append _ _
      · intro drained
        exact absurd drained active
    · rw [List.mem_singleton.mp isLast]
      have made := (ClassDecl.build_eq_ok_iff.mp built).left
      refine ⟨decl, entry, isServed, named, made, ?_, rfl, rfl, rfl, fun _ _ _ _ => rfl, ?_⟩
      · intro names mentioned other isMentioned admittedOther
        apply (knows other).mpr
        by_cases known : resolver.agenda.Knows other
        · exact Or.inl known
        · rw [Agenda.knows_of_pop? popped, not_or] at known
          have different : other ≠ decl.name := named ▸ known.left
          have fresh : other ∉ agenda.done := fun isDone => known.right (Or.inl isDone)
          exact Or.inr ((ClassDecl.mem_references_of_build built mentioned).mpr
            ⟨isMentioned, different, fresh, admittedOther⟩)
      · intro drained
        exact absurd drained active

theorem Sound.skip {resolver : Resolver} (sound : Sound whitelist served resolver)
    {name : ClassName} {origin : Origin} {agenda : Agenda}
    (popped : resolver.agenda.pop? = some ((name, origin), agenda))
    (admitted : whitelist.admits name = true) (active : resolver.phase ≠ .drained) :
    Sound whitelist served (Resolver.skip { resolver with agenda } name) := by
  constructor
  · exact sound.coherent.skip popped admitted active
  · intro item mem
    rcases sound.rooted item mem with ⟨decl, built, rooted⟩
    refine ⟨decl, built, rooted.mono ?_ (List.subset_append_left _ _)
      (fun _ _ found => found) ?_⟩
    · intro other _ known
      apply Agenda.knows_markDone.mpr
      exact (Agenda.knows_of_pop? popped).mp known
    · intro drained
      exact absurd drained active

theorem Step.mem_requests {source : ClassSource σ} {resolver next : Resolver} {state later : σ}
    (step : Step whitelist source resolver state next later)
    (coherent : Coherent whitelist resolver) {name : ClassName}
    (asked : (name, Origin.seed) ∈ next.agenda.pending) :
    (name, Origin.seed) ∈ resolver.agenda.pending := by
  have before : ∀ {item : ClassName × Origin} {agenda : Agenda},
      resolver.agenda.pop? = some (item, agenda) → (name, Origin.seed) ∈ agenda.pending →
        (name, Origin.seed) ∈ resolver.agenda.pending := by
    intro item agenda popped waits
    rw [(Agenda.pop?_eq_some_iff.mp popped).left]
    exact List.mem_cons_of_mem _ waits
  cases step with
  | pass popped idle => exact before popped asked
  | build popped fresh admitted loaded answers built =>
      have marked := Agenda.mem_requests_addReferences.mp asked
      rw [Agenda.pending_markDone_of_not_mem (coherent.taken popped).notWaiting] at marked
      exact before popped marked
  | skip popped fresh admitted loaded =>
      change (name, Origin.seed) ∈ (Agenda.markDone _ _).pending at asked
      rw [Agenda.pending_markDone_of_not_mem (coherent.taken popped).notWaiting] at asked
      exact before popped asked

theorem Step.phase {source : ClassSource σ} {resolver next : Resolver} {state later : σ}
    (step : Step whitelist source resolver state next later) : next.phase = resolver.phase := by
  cases step <;> rfl

theorem Sound.step {source : ClassSource σ} (serves : Serves source served)
    {resolver next : Resolver} {state later : σ} (sound : Sound whitelist served resolver)
    (active : resolver.phase ≠ .drained)
    (step : Step whitelist source resolver state next later) : Sound whitelist served next := by
  cases step with
  | pass popped idle => exact sound.pass popped idle active
  | build popped fresh admitted loaded answers built =>
      have isServed := serves _ _ _ _ loaded answers
      exact sound.settle popped admitted active isServed answers built
  | skip popped fresh admitted loaded => exact sound.skip popped admitted active

/-!
# The end of a run
-/

theorem classes_finish (resolver : Resolver) :
    resolver.finish.classes = resolver.classes.map fun item =>
      (item.1, finishEntry resolver.missing (aliases resolver.entries) item.2) := by
  have erased : (resolver.eraseMissing.classes.map Prod.snd) =
      resolver.entries.map (eraseFrom resolver.missing) := by
    simp only [eraseMissing, mapEntries, entries, List.map_map, Function.comp_def]
  show resolver.eraseMissing.assignAliases.classes = _
  unfold assignAliases
  rw [erased, aliases_map (keepsNames_eraseFrom _)]
  simp only [eraseMissing, mapEntries, List.map_map, Function.comp_def]
  rfl

theorem names_finish (resolver : Resolver) : resolver.finish.names = resolver.names := by
  rw [names, classes_finish, List.map_map]
  rfl

theorem entries_finish (resolver : Resolver) :
    resolver.finish.entries =
      resolver.entries.map (finishEntry resolver.missing (aliases resolver.entries)) := by
  rw [entries, classes_finish, List.map_map, entries, List.map_map]
  rfl

theorem aliases_finish (resolver : Resolver) :
    aliases resolver.finish.entries = aliases resolver.entries := by
  rw [entries_finish, aliases_map (keepsNames_finishEntry _ _)]

theorem Sound.finish {resolver : Resolver} (sound : Sound whitelist served resolver)
    (through : resolver.agenda.pending = []) : Sound whitelist served resolver.finish := by
  constructor
  · refine { sound.coherent with
      done_iff := ?_, names_nodup := ?_, apart := ?_, quiet := fun _ => through }
    · rw [names_finish]
      exact sound.coherent.done_iff
    · rw [names_finish]
      exact sound.coherent.names_nodup
    · rw [names_finish]
      exact sound.coherent.apart
  · intro item mem
    rw [classes_finish] at mem
    rcases List.mem_map.mp mem with ⟨earlier, inClasses, rfl⟩
    rcases sound.rooted earlier inClasses with ⟨decl, built, rooted⟩
    have finished : finishEntry resolver.missing (aliases resolver.entries) earlier.2 =
        finishEntry resolver.missing (aliases resolver.entries) built :=
      rooted.finishes _ _ (List.Subset.refl _) fun _ _ found => found
    refine ⟨decl, built, rooted.served, rooted.named, rooted.made, rooted.covered, ?_, ?_, ?_,
      ?_, ?_⟩
    · rw [finished, fullName_finishEntry]
    · rw [finished, shortName_finishEntry]
    · rw [finished, isPrimitive_finishEntry]
    · intro missing aliased grows keeps
      rw [aliases_finish] at keeps
      rw [finished]
      exact finishEntry_finishEntry grows keeps built
    · intro _
      rw [aliases_finish]
      exact finished

/-!
# Requests
-/

theorem coherent_start (whitelist : Whitelist) : Coherent whitelist start where
  agenda := Agenda.wellFormed_empty
  done_iff := by
    intro name
    constructor
    · intro isDone
      cases isDone
    · intro either
      rcases either with built | isMissing
      · cases built
      · cases isMissing
  names_nodup := List.nodup_nil
  missing_nodup := List.nodup_nil
  seeds_nodup := List.nodup_nil
  apart := fun _ built => nomatch built
  admitted := fun _ isDone => nomatch isDone
  quiet := fun drained => nomatch drained

theorem sound_start (whitelist : Whitelist) (served : ClassName → ClassDecl → Prop) :
    Sound whitelist served start :=
  ⟨coherent_start whitelist, fun _ mem => nomatch mem⟩

theorem Sound.abort {resolver : Resolver} (sound : Sound whitelist served resolver) :
    Sound whitelist served resolver.abort where
  coherent := { coherent_start whitelist with seeds_nodup := sound.coherent.seeds_nodup }
  rooted := fun _ mem => nomatch mem

theorem Sound.begin {resolver : Resolver} (sound : Sound whitelist served resolver) :
    Sound whitelist served resolver.begin where
  coherent := { sound.coherent with quiet := fun drained => nomatch drained }
  rooted := by
    intro item mem
    rcases sound.rooted item mem with ⟨decl, built, rooted⟩
    exact ⟨decl, built, rooted.mono (fun _ _ covered => covered) (List.Subset.refl _)
      (fun _ _ found => found) fun drained => nomatch drained⟩

/-- A change of the requests, the agenda and the phase only. -/
theorem Sound.of_agenda {resolver : Resolver} (sound : Sound whitelist served resolver)
    {next : Resolver} (classes : next.classes = resolver.classes)
    (missing : next.missing = resolver.missing) (seeds : next.seeds.Nodup)
    (wellFormed : next.agenda.WellFormed) (done : next.agenda.done = resolver.agenda.done)
    (waits : ∀ name ∈ resolver.agenda.waiting, name ∈ next.agenda.waiting)
    (quiet : next.phase = .drained → resolver.phase = .drained ∧ next.agenda.pending = []) :
    Sound whitelist served next := by
  have sameNames : next.names = resolver.names := congrArg (List.map Prod.fst) classes
  have sameEntries : next.entries = resolver.entries := congrArg (List.map Prod.snd) classes
  constructor
  · constructor
    · exact wellFormed
    · rw [done, sameNames, missing]
      exact sound.coherent.done_iff
    · rw [sameNames]
      exact sound.coherent.names_nodup
    · rw [missing]
      exact sound.coherent.missing_nodup
    · exact seeds
    · rw [sameNames, missing]
      exact sound.coherent.apart
    · rw [done]
      exact sound.coherent.admitted
    · intro drained
      exact (quiet drained).right
  · intro item mem
    rcases sound.rooted item (classes ▸ mem) with ⟨decl, built, rooted⟩
    refine ⟨decl, built, rooted.mono ?_ ?_ ?_ ?_⟩
    · intro other _ known
      rcases known with isDone | isWaiting
      · exact Or.inl (done ▸ isDone)
      · exact Or.inr (waits other isWaiting)
    · rw [missing]
      exact List.Subset.refl _
    · rw [sameEntries]
      exact fun _ _ found => found
    · intro drained
      exact ⟨(quiet drained).left, missing, sameEntries⟩

theorem addTodo_eq (resolver : Resolver) (name : ClassName) (origin : Origin) :
    resolver.addTodo name origin =
      { resolver with
        agenda := (resolver.agenda.add name origin).2
        phase := if (resolver.agenda.add name origin).1 && resolver.phase = .drained then .idle
          else resolver.phase } :=
  rfl

theorem Sound.addTodo {resolver : Resolver} (sound : Sound whitelist served resolver)
    (name : ClassName) (origin : Origin) :
    Sound whitelist served (resolver.addTodo name origin) := by
  rw [addTodo_eq]
  refine sound.of_agenda rfl rfl sound.coherent.seeds_nodup
    (Agenda.wellFormed_add sound.coherent.agenda name origin)
    (Agenda.done_add resolver.agenda name origin)
    (fun _ waits => Agenda.mem_waiting_add.mpr (Or.inl waits)) ?_
  intro drained
  simp only at drained
  split at drained
  · cases drained
  · next notBoth =>
      refine ⟨drained, ?_⟩
      have ignored : (resolver.agenda.add name origin).1 ≠ true := by
        intro waits
        exact notBoth (by simp [waits, drained])
      have isDone : name ∈ resolver.agenda.done := by
        apply Classical.byContradiction
        intro fresh
        exact ignored ((Agenda.fst_add_iff _ _ _).mpr fresh)
      rcases Agenda.add_eq resolver.agenda name origin with ⟨_, same⟩ | ⟨fresh, _⟩ | ⟨fresh, _⟩
      · rw [same]
        exact sound.coherent.quiet drained
      · exact absurd isDone fresh
      · exact absurd isDone fresh

def noteSeed (resolver : Resolver) (name : ClassName) : Resolver :=
  { resolver with
    seeds := if name ∈ resolver.seeds then resolver.seeds else resolver.seeds ++ [name]
    phase := if name ∈ resolver.missing then .idle else resolver.phase }

theorem addSeed_eq (resolver : Resolver) (name : ClassName) :
    resolver.addSeed name = (resolver.noteSeed name).addTodo name .seed :=
  rfl

theorem Sound.noteSeed {resolver : Resolver} (sound : Sound whitelist served resolver)
    (name : ClassName) : Sound whitelist served (resolver.noteSeed name) := by
  refine sound.of_agenda rfl rfl ?_ sound.coherent.agenda rfl (fun _ waits => waits) ?_
  · unfold Resolver.noteSeed
    simp only
    split
    · exact sound.coherent.seeds_nodup
    · next isNew => exact List.concat_eq_append ▸ sound.coherent.seeds_nodup.concat isNew
  · intro drained
    unfold Resolver.noteSeed at drained
    simp only at drained
    split at drained
    · cases drained
    · exact ⟨drained, sound.coherent.quiet drained⟩

theorem Sound.addSeed {resolver : Resolver} (sound : Sound whitelist served resolver)
    (name : ClassName) : Sound whitelist served (resolver.addSeed name) :=
  (sound.noteSeed name).addTodo name .seed

theorem Sound.addSeeds {resolver : Resolver} (sound : Sound whitelist served resolver)
    (names : List ClassName) : Sound whitelist served (resolver.addSeeds names) := by
  induction names generalizing resolver with
  | nil => exact sound
  | cons first rest ih => exact ih (sound.addSeed first)

def Running (whitelist : Whitelist) (served : ClassName → ClassDecl → Prop)
    (resolver : Resolver) : Prop :=
  Sound whitelist served resolver ∧ resolver.phase = .draining

theorem Sound.running_begin {resolver : Resolver} (sound : Sound whitelist served resolver) :
    Running whitelist served resolver.begin :=
  ⟨sound.begin, rfl⟩

theorem Running.step {source : ClassSource σ} (serves : Serves source served)
    {resolver next : Resolver} {state later : σ} (running : Running whitelist served resolver)
    (step : Step whitelist source resolver state next later) :
    Running whitelist served next := by
  rcases running with ⟨sound, draining⟩
  have active : resolver.phase ≠ .drained := by
    rw [draining]
    exact fun impossible => nomatch impossible
  exact ⟨sound.step serves active step, step.phase.trans draining⟩

theorem Sound.drain {source : ClassSource σ} (serves : Serves source served)
    {resolver : Resolver} (sound : Sound whitelist served resolver) (state : σ)
    (ends : Ends whitelist source resolver.begin state) :
    Sound whitelist served (resolver.drain whitelist source state ends).2.1 := by
  have preserved : ∀ resolver (state : σ) next later, Running whitelist served resolver →
      Step whitelist source resolver state next later → Running whitelist served next :=
    fun _ _ _ _ running step => running.step serves step
  have outcome := drain_outcome preserved ends fun _ => sound.running_begin
  generalize resolver.drain whitelist source state ends = result at outcome
  cases outcome with
  | overdue found => exact sound.abort
  | through running nothing => exact running.left.finish nothing
  | stopped running stops => exact sound.abort

end Resolver
end ClassAtlas
