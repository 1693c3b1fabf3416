import ClassAtlas.Proofs.Closure.Requests
import ClassAtlas.Source.Snapshot

/-!
# Resolving is closing under references

What can be reached from the seeds through admitted references is the least set
that a resolution has to look at. Against a snapshot a resolution looks at exactly
this set, and it succeeds when every seed exists and everything reached builds.
-/

namespace ClassAtlas

namespace Snapshot

def Holds (snapshot : Snapshot) (name : ClassName) : Prop :=
  ∃ decl, snapshot.load name = .ok decl

/-- The admitted seeds and what the classes reached from them refer to. -/
inductive Reach (snapshot : Snapshot) (whitelist : Whitelist) (seeds : List ClassName) :
    ClassName → Prop where
  | seed {name : ClassName} (listed : name ∈ seeds) (admitted : whitelist.admits name = true) :
      Reach snapshot whitelist seeds name
  | reference {name other : ClassName} {decl : ClassDecl}
      (reached : Reach snapshot whitelist seeds name) (held : snapshot.load name = .ok decl)
      (refers : decl.Refers other) (admitted : whitelist.admits other = true) :
      Reach snapshot whitelist seeds other

theorem name_of_load {snapshot : Snapshot} {name : ClassName} {decl : ClassDecl}
    (loaded : snapshot.load name = .ok decl) : decl.name = name := by
  unfold load at loaded
  split at loaded
  · exact of_error_eq_ok loaded
  · split at loaded
    · next found =>
        rw [← Except.ok.inj loaded]
        simpa using List.find?_some found
    · exact of_error_eq_ok loaded

theorem eq_notFound_of_load {snapshot : Snapshot} (available : snapshot.unavailable = none)
    {name : ClassName} {error : LoadError} (failed : snapshot.load name = .error error) :
    error = .notFound name := by
  unfold load at failed
  rw [available] at failed
  simp only at failed
  split at failed
  · cases failed
  · exact (Except.error.inj failed).symm

def Serves (snapshot : Snapshot) (name : ClassName) (decl : ClassDecl) : Prop :=
  snapshot.load name = .ok decl

theorem serves_source (snapshot : Snapshot) : Resolver.Serves snapshot.source snapshot.Serves := by
  intro name journal decl later loaded _
  exact (Prod.mk.inj loaded).left

end Snapshot

namespace Resolver

variable {whitelist : Whitelist} {snapshot : Snapshot} {seeds : List ClassName}

/-!
# Requests
-/

theorem done_addSeeds (resolver : Resolver) (names : List ClassName) :
    (resolver.addSeeds names).agenda.done = resolver.agenda.done := by
  induction names generalizing resolver with
  | nil => rfl
  | cons first rest ih => exact (ih _).trans (Agenda.done_add resolver.agenda first .seed)

theorem missing_addSeeds (resolver : Resolver) (names : List ClassName) :
    (resolver.addSeeds names).missing = resolver.missing := by
  induction names generalizing resolver with
  | nil => rfl
  | cons first rest ih => exact ih _

theorem names_addSeeds (resolver : Resolver) (names : List ClassName) :
    (resolver.addSeeds names).names = resolver.names := by
  induction names generalizing resolver with
  | nil => rfl
  | cons first rest ih => exact ih _

theorem mem_waiting_addSeeds {resolver : Resolver} {names : List ClassName} {name : ClassName}
    (waits : name ∈ (resolver.addSeeds names).agenda.waiting) :
    name ∈ resolver.agenda.waiting ∨ name ∈ names := by
  induction names generalizing resolver with
  | nil => exact Or.inl waits
  | cons first rest ih =>
      rcases ih waits with before | later
      · have added : name ∈ (resolver.agenda.add first .seed).2.waiting := before
        rcases Agenda.mem_waiting_add.mp added with old | ⟨isFirst, _⟩
        · exact Or.inl old
        · exact Or.inr (isFirst ▸ List.mem_cons_self)
      · exact Or.inr (List.mem_cons_of_mem _ later)

/-!
# Confined runs

What a run comes to know lies in any set that holds its requests and all that the
classes in it refer to. Such a run stops only inside the set.
-/

def Closed (snapshot : Snapshot) (whitelist : Whitelist) (inside : ClassName → Prop) : Prop :=
  ∀ name decl, inside name → snapshot.load name = .ok decl →
    ∀ resolved entry references, decl.build whitelist resolved = .ok (entry, references) →
      ∀ other ∈ references, whitelist.admits other = true → inside other

structure Confined (whitelist : Whitelist) (inside : ClassName → Prop) (seeds : List ClassName)
    (resolver : Resolver) : Prop where
  known : ∀ name, resolver.agenda.Knows name → whitelist.admits name = true → inside name
  asked : ∀ name, (name, Origin.seed) ∈ resolver.agenda.pending → name ∈ seeds

variable {inside : ClassName → Prop}

theorem Confined.step {resolver next : Resolver} {journal later : Snapshot.Journal}
    (confined : Confined whitelist inside seeds resolver)
    (closed : Closed snapshot whitelist inside) (coherent : Coherent whitelist resolver)
    (step : Step whitelist snapshot.source resolver journal next later) :
    Confined whitelist inside seeds next := by
  constructor
  · intro other known admittedOther
    rcases step.exists_of_knows known with
      before | ⟨name, decl, entry, references, isKnown, admitted, loaded, built, referred⟩
    · exact confined.known other before admittedOther
    · have isInside := confined.known name isKnown admitted
      have held : snapshot.load name = .ok decl := (Prod.mk.inj loaded).left
      exact closed name decl isInside held _ entry references built other referred admittedOther
  · intro name asked
    exact confined.asked name (step.mem_requests coherent asked)

theorem confined_begin {resolver : Resolver} {batch : List ClassName}
    (through : resolver.agenda.pending = []) (done : ∀ name ∈ resolver.agenda.done, inside name)
    (subset : batch ⊆ seeds)
    (requested : ∀ name ∈ batch, whitelist.admits name = true → inside name) :
    Confined whitelist inside seeds (resolver.addSeeds batch).begin := by
  have waiting : ∀ name ∈ (resolver.addSeeds batch).agenda.waiting, name ∈ batch := by
    intro name waits
    rcases mem_waiting_addSeeds waits with old | isNew
    · rw [Agenda.waiting, through] at old
      cases old
    · exact isNew
  constructor
  · intro name known admitted
    rcases known with isDone | waits
    · change name ∈ (resolver.addSeeds batch).agenda.done at isDone
      rw [done_addSeeds] at isDone
      exact done name isDone
    · exact requested name (waiting name waits) admitted
  · intro name asked
    exact subset (waiting name (List.mem_map_of_mem asked))

/-!
# What a resolution has looked at
-/

theorem closed_reach (configured : whitelist.IsConfigured) :
    Closed snapshot whitelist (snapshot.Reach whitelist seeds) := by
  intro name decl reached held resolved entry references built other referred admitted
  have made := (ClassDecl.build_eq_ok_iff.mp built).left
  rcases ClassDecl.exists_mentions_of_toEntry made with ⟨names, mentioned⟩
  have isMentioned := ((ClassDecl.mem_references_of_build built mentioned).mp referred).left
  have notKeyword := Whitelist.ofKeyword?_of_admits configured admitted
  have refers := (ClassDecl.mem_mentions_iff_refers made mentioned notKeyword).mp isMentioned
  exact .reference reached held refers admitted

/-- Only what can be reached was looked at, and no seed was lost. -/
structure Explores (snapshot : Snapshot) (whitelist : Whitelist) (seeds : List ClassName)
    (resolver : Resolver) : Prop where
  running : Running whitelist snapshot.Serves resolver
  reached : ∀ name, resolver.agenda.Knows name → whitelist.admits name = true →
    snapshot.Reach whitelist seeds name
  absent : ∀ name ∈ resolver.missing, ¬snapshot.Holds name
  listed : ∀ name, (name, Origin.seed) ∈ resolver.agenda.pending → name ∈ seeds
  kept : ∀ name ∈ seeds, whitelist.admits name = true → Awaits name resolver

theorem Explores.confined {resolver : Resolver}
    (explores : Explores snapshot whitelist seeds resolver) :
    Confined whitelist (snapshot.Reach whitelist seeds) seeds resolver :=
  ⟨explores.reached, explores.listed⟩

theorem Step.absent {resolver next : Resolver} {journal later : Snapshot.Journal}
    (step : Step whitelist snapshot.source resolver journal next later)
    (absent : ∀ name ∈ resolver.missing, ¬snapshot.Holds name) :
    ∀ name ∈ next.missing, ¬snapshot.Holds name := by
  cases step with
  | pass popped idle => exact absent
  | build popped fresh admitted loaded answers built => exact absent
  | @skip name other agenda _ popped fresh admitted loaded =>
      have failed : snapshot.load name = .error (.notFound other) := (Prod.mk.inj loaded).left
      intro name isMissing
      rcases List.mem_append.mp isMissing with old | isLast
      · exact absent name old
      · intro holds
        rcases holds with ⟨decl, held⟩
        rw [List.mem_singleton.mp isLast, failed] at held
        cases held

theorem Explores.step {resolver next : Resolver} {journal later : Snapshot.Journal}
    (configured : whitelist.IsConfigured)
    (explores : Explores snapshot whitelist seeds resolver)
    (step : Step whitelist snapshot.source resolver journal next later) :
    Explores snapshot whitelist seeds next := by
  have coherent := explores.running.left.coherent
  have confined := explores.confined.step (closed_reach configured) coherent step
  refine ⟨explores.running.step snapshot.serves_source step, confined.known,
    step.absent explores.absent, confined.asked, ?_⟩
  intro name mem admitted
  exact (explores.kept name mem admitted).step admitted coherent step

theorem explores_begin (snapshot : Snapshot) (whitelist : Whitelist) (seeds : List ClassName) :
    Explores snapshot whitelist seeds (start.addSeeds seeds).begin := by
  have sound := (sound_start whitelist snapshot.Serves).addSeeds seeds
  have confined : Confined whitelist (snapshot.Reach whitelist seeds) seeds
      (start.addSeeds seeds).begin :=
    confined_begin rfl (fun _ isDone => nomatch isDone) (List.Subset.refl seeds)
      fun name mem admitted => .seed mem admitted
  refine ⟨sound.running_begin, confined.known, ?_, confined.asked, ?_⟩
  · intro name isMissing
    change name ∈ (start.addSeeds seeds).missing at isMissing
    rw [missing_addSeeds] at isMissing
    cases isMissing
  · intro name mem _
    rcases (honours_addSeeds mem start).taken with waits | isDone
    · exact Or.inl waits
    · rw [done_addSeeds] at isDone
      cases isDone

/-!
# The end
-/

theorem Explores.mem_done {resolver : Resolver} (configured : whitelist.IsConfigured)
    (explores : Explores snapshot whitelist seeds resolver)
    (nothing : resolver.agenda.pending = []) {name : ClassName}
    (reached : snapshot.Reach whitelist seeds name) : name ∈ resolver.agenda.done := by
  have coherent := explores.running.left.coherent
  have notWaiting : ∀ other, other ∉ resolver.agenda.waiting := by
    intro other waits
    rw [Agenda.waiting, nothing] at waits
    cases waits
  induction reached with
  | @seed name listed admitted =>
      rcases explores.kept name listed admitted with waits | isBuilt
      · rw [nothing] at waits
        cases waits
      · exact (coherent.done_iff name).mpr (Or.inl isBuilt)
  | @reference name other decl reached held refers admitted ih =>
      rcases (coherent.done_iff name).mp ih with isBuilt | isMissing
      · rcases List.mem_map.mp isBuilt with ⟨item, mem, rfl⟩
        rcases explores.running.left.rooted item mem with ⟨served, built, rooted⟩
        have same : served = decl := Except.ok.inj (rooted.served.symm.trans held)
        rw [← same] at refers
        rcases ClassDecl.exists_mentions_of_toEntry rooted.made with ⟨names, mentioned⟩
        have notKeyword := Whitelist.ofKeyword?_of_admits configured admitted
        have inNames := (ClassDecl.mem_mentions_iff_refers rooted.made mentioned notKeyword).mpr
          refers
        rcases rooted.covered names mentioned other inNames admitted with isDone | waits
        · exact isDone
        · exact absurd waits (notWaiting other)
      · exact absurd ⟨decl, held⟩ (explores.absent name isMissing)

/-- What is mapped and what is missing once nothing waits. -/
theorem Explores.outcome {resolver : Resolver} (configured : whitelist.IsConfigured)
    (explores : Explores snapshot whitelist seeds resolver)
    (nothing : resolver.agenda.pending = []) (name : ClassName) :
    (name ∈ resolver.names ↔ snapshot.Reach whitelist seeds name ∧ snapshot.Holds name) ∧
    (name ∈ resolver.missing ↔ snapshot.Reach whitelist seeds name ∧ ¬snapshot.Holds name) := by
  have coherent := explores.running.left.coherent
  have held : name ∈ resolver.names → snapshot.Holds name := by
    intro isBuilt
    rcases List.mem_map.mp isBuilt with ⟨item, mem, rfl⟩
    rcases explores.running.left.rooted item mem with ⟨decl, built, rooted⟩
    exact ⟨decl, rooted.served⟩
  have reached : name ∈ resolver.names ∨ name ∈ resolver.missing →
      snapshot.Reach whitelist seeds name := by
    intro either
    have isDone := (coherent.done_iff name).mpr either
    exact explores.reached name (Or.inl isDone) (coherent.admitted name isDone)
  have found : snapshot.Reach whitelist seeds name →
      name ∈ resolver.names ∨ name ∈ resolver.missing := by
    intro isReached
    exact (coherent.done_iff name).mp (explores.mem_done configured nothing isReached)
  constructor
  · constructor
    · intro isBuilt
      exact ⟨reached (Or.inl isBuilt), held isBuilt⟩
    · intro both
      rcases found both.left with isBuilt | isMissing
      · exact isBuilt
      · exact absurd both.right (explores.absent name isMissing)
  · constructor
    · intro isMissing
      exact ⟨reached (Or.inr isMissing), explores.absent name isMissing⟩
    · intro both
      rcases found both.left with isBuilt | isMissing
      · exact absurd (held isBuilt) both.right
      · exact isMissing

theorem Explores.holds_of_seed {resolver : Resolver} (configured : whitelist.IsConfigured)
    (explores : Explores snapshot whitelist seeds resolver)
    (nothing : resolver.agenda.pending = []) {name : ClassName} (listed : name ∈ seeds)
    (admitted : whitelist.admits name = true) : snapshot.Holds name := by
  rcases explores.kept name listed admitted with waits | isBuilt
  · rw [nothing] at waits
    cases waits
  · exact ((explores.outcome configured nothing name).left.mp isBuilt).right

theorem Explores.builds {resolver : Resolver} (configured : whitelist.IsConfigured)
    (explores : Explores snapshot whitelist seeds resolver)
    (nothing : resolver.agenda.pending = []) {name : ClassName} {decl : ClassDecl}
    (reached : snapshot.Reach whitelist seeds name) (held : snapshot.load name = .ok decl) :
    ∃ built, decl.build whitelist [] = .ok built := by
  have isBuilt := (explores.outcome configured nothing name).left.mpr ⟨reached, decl, held⟩
  rcases List.mem_map.mp isBuilt with ⟨item, mem, rfl⟩
  rcases explores.running.left.rooted item mem with ⟨served, entry, rooted⟩
  have same : served = decl := Except.ok.inj (rooted.served.symm.trans held)
  rw [← same]
  exact ClassDecl.exists_build_iff.mpr ⟨entry, rooted.made⟩

/-- A run against an available snapshot stops at a request for a class that does not exist
or at a class whose entry cannot be made. -/
theorem Stops.absent_or_unmade {resolver : Resolver} {journal later : Snapshot.Journal}
    {name : ClassName} {cause : Cause} {origin : Origin} {agenda : Agenda}
    (stops : Stops whitelist snapshot.source resolver journal name cause later origin agenda)
    (available : snapshot.unavailable = none) :
    ((name, Origin.seed) ∈ resolver.agenda.pending ∧ ¬snapshot.Holds name) ∨
      ∃ decl, snapshot.load name = .ok decl ∧
        ¬∃ entry, decl.toEntry whitelist.registry = .ok entry := by
  have failed := stops.failed
  unfold ClassSource.build at failed
  cases loaded : snapshot.load name with
  | ok decl =>
      have answered : snapshot.source.load name journal =
          (.ok decl, snapshot.note name journal) := by
        rw [← loaded]
        rfl
      rw [answered] at failed
      simp only [Snapshot.name_of_load loaded, if_true] at failed
      refine Or.inr ⟨decl, rfl, fun made => ?_⟩
      rcases (@ClassDecl.exists_build_iff whitelist agenda.done decl).mpr made with
        ⟨built, succeeds⟩
      rw [succeeds] at failed
      cases failed
  | error error =>
      have answered : snapshot.source.load name journal =
          (.error error, snapshot.note name journal) := by
        rw [← loaded]
        rfl
      rw [answered, Snapshot.eq_notFound_of_load available loaded] at failed
      rcases stops.fatal with isSeed | notTolerated
      · refine Or.inl ⟨?_, ?_⟩
        · rw [(Agenda.pop?_eq_some_iff.mp stops.popped).left, isSeed]
          exact List.mem_cons_self
        · intro holds
          rcases holds with ⟨decl, held⟩
          rw [loaded] at held
          cases held
      · rw [← Except.error.inj (Prod.mk.inj failed).left] at notTolerated
        cases notTolerated

theorem Confined.not_stops {resolver : Resolver} {journal later : Snapshot.Journal}
    {name : ClassName} {cause : Cause} {origin : Origin} {agenda : Agenda}
    (confined : Confined whitelist inside seeds resolver)
    (available : snapshot.unavailable = none)
    (exist : ∀ name ∈ seeds, whitelist.admits name = true → snapshot.Holds name)
    (made : ∀ name decl, inside name → snapshot.load name = .ok decl →
      ∃ entry, decl.toEntry whitelist.registry = .ok entry) :
    ¬Stops whitelist snapshot.source resolver journal name cause later origin agenda := by
  intro stops
  rcases stops.absent_or_unmade available with ⟨asked, absent⟩ | ⟨decl, held, unmade⟩
  · exact absent (exist name (confined.asked name asked) stops.admitted)
  · exact unmade (made name decl (confined.known name stops.knows stops.admitted) held)

theorem Explores.not_stops {resolver : Resolver} {journal later : Snapshot.Journal}
    {name : ClassName} {cause : Cause} {origin : Origin} {agenda : Agenda}
    (explores : Explores snapshot whitelist seeds resolver)
    (available : snapshot.unavailable = none)
    (exist : ∀ name ∈ seeds, whitelist.admits name = true → snapshot.Holds name)
    (build : ∀ name decl, snapshot.Reach whitelist seeds name → snapshot.load name = .ok decl →
      ∃ built, decl.build whitelist [] = .ok built) :
    ¬Stops whitelist snapshot.source resolver journal name cause later origin agenda :=
  explores.confined.not_stops available exist fun name decl reached held =>
    ClassDecl.exists_build_iff.mp (build name decl reached held)

theorem overdueSeed?_start (names : List ClassName) :
    (start.addSeeds names).overdueSeed? = none := by
  rw [overdueSeed?_eq_none_iff, missing_addSeeds]
  intro name _ impossible
  cases impossible

theorem drain_explores (configured : whitelist.IsConfigured) (snapshot : Snapshot)
    (seeds : List ClassName) (journal : Snapshot.Journal)
    (ends : Ends whitelist snapshot.source (start.addSeeds seeds).begin journal) :
    DrainOutcome whitelist snapshot.source (start.addSeeds seeds) journal
      (fun resolver _ => Explores snapshot whitelist seeds resolver)
      ((start.addSeeds seeds).drain whitelist snapshot.source journal ends) := by
  apply drain_outcome
  · intro resolver state next later explores step
    exact explores.step configured step
  · intro _
    exact explores_begin snapshot whitelist seeds

end Resolver

/-- Resolving against an available snapshot closes the admitted seeds under
references. It succeeds exactly when the seeds exist and all that is reached builds;
the classes reached are then mapped if they exist and missing if not. -/
theorem Whitelist.resolve_iff_reach {whitelist : Whitelist} {snapshot : Snapshot}
    (configured : whitelist.IsConfigured) (available : snapshot.unavailable = none)
    (seeds : List ClassName) (journal : Snapshot.Journal) :
    ((∃ atlas later, whitelist.resolve snapshot.source snapshot.finite_source seeds journal =
        (.ok atlas, later)) ↔
      (∀ name ∈ seeds, whitelist.admits name = true → snapshot.Holds name) ∧
      (∀ name decl, snapshot.Reach whitelist seeds name → snapshot.load name = .ok decl →
        ∃ built, decl.build whitelist [] = .ok built)) ∧
    (∀ atlas later, whitelist.resolve snapshot.source snapshot.finite_source seeds journal =
        (.ok atlas, later) →
      atlas.names.Nodup ∧ atlas.missing.Nodup ∧
      (∀ name, name ∈ atlas.names ↔
        snapshot.Reach whitelist seeds name ∧ snapshot.Holds name) ∧
      (∀ name, name ∈ atlas.missing ↔
        snapshot.Reach whitelist seeds name ∧ ¬snapshot.Holds name) ∧
      ∀ name ∈ atlas.names, name ∉ atlas.missing) := by
  have ends := Resolver.ends_of_finite snapshot.finite_source whitelist
    (Resolver.start.addSeeds seeds).begin journal
  have outcome := Resolver.drain_explores configured snapshot seeds journal ends
  unfold Whitelist.resolve Resolver.resolve
  simp only
  generalize (Resolver.start.addSeeds seeds).drain whitelist snapshot.source journal _ = result
    at outcome
  cases outcome with
  | overdue found =>
      rw [Resolver.overdueSeed?_start] at found
      cases found
  | @stopped before during later name cause origin agenda explores stops =>
      constructor
      · constructor
        · intro succeeds
          rcases succeeds with ⟨atlas, last, impossible⟩
          cases impossible
        · intro conditions
          exact absurd stops (explores.not_stops available conditions.left conditions.right)
      · intro atlas last impossible
        cases impossible
  | @through last later explores nothing =>
      constructor
      · constructor
        · intro _
          constructor
          · intro name listed admitted
            exact explores.holds_of_seed configured nothing listed admitted
          · intro name decl reached held
            exact explores.builds configured nothing reached held
        · intro _
          exact ⟨_, _, rfl⟩
      · intro atlas after succeeded
        have coherent := explores.running.left.coherent
        have closed := explores.outcome configured nothing
        have same := Except.ok.inj (Prod.mk.inj succeeded).left
        have names : atlas.names = last.names := by
          rw [← same]
          exact Resolver.names_finish last
        have missing : atlas.missing = last.missing := by
          rw [← same]
          rfl
        rw [names, missing]
        exact ⟨coherent.names_nodup, coherent.missing_nodup, fun name => (closed name).left,
          fun name => (closed name).right, coherent.apart⟩

open ClassDecl (overloaded) in
theorem Whitelist.resolve_iff_reach_overloaded :
    ∃ atlas later, (Whitelist.ofRules [.package "a"]).resolve
        (Snapshot.ofDecls [overloaded]).source (Snapshot.ofDecls [overloaded]).finite_source
        [overloaded.name] [] = (.ok atlas, later) ∧
      overloaded.name ∈ atlas.names ∧ ⟨"a.Gone"⟩ ∈ atlas.missing := by
  have configured : (Whitelist.ofRules [.package "a"]).IsConfigured :=
    isConfigured_of_parse (show parse ["a.*"] = _ from rfl)
  have closes := resolve_iff_reach configured
    (show (Snapshot.ofDecls [overloaded]).unavailable = none from rfl) [overloaded.name] []
  have held : (Snapshot.ofDecls [overloaded]).load overloaded.name = .ok overloaded := rfl
  have builds : ∀ name decl, (Snapshot.ofDecls [overloaded]).load name = .ok decl →
      ∃ built, decl.build (Whitelist.ofRules [.package "a"]) [] = .ok built := by
    intro name decl loaded
    rw [List.mem_singleton.mp (Snapshot.mem_classes_of_load loaded)]
    exact ⟨_, rfl⟩
  have succeeds := closes.left.mpr
    ⟨fun name mem _ => ⟨overloaded, List.mem_singleton.mp mem ▸ held⟩,
      fun name decl _ loaded => builds name decl loaded⟩
  rcases succeeds with ⟨atlas, later, resolved⟩
  rcases closes.right atlas later resolved with ⟨_, _, names, missing, _⟩
  have reached : (Snapshot.ofDecls [overloaded]).Reach (Whitelist.ofRules [.package "a"])
      [overloaded.name] overloaded.name := .seed List.mem_cons_self (by decide)
  have refers : overloaded.Refers ⟨"a.Gone"⟩ :=
    .method _ List.mem_cons_self "a.Gone" (by decide) (by decide)
  have absent : ¬(Snapshot.ofDecls [overloaded]).Holds ⟨"a.Gone"⟩ := by
    intro holds
    rcases holds with ⟨decl, loaded⟩
    cases loaded
  exact ⟨atlas, later, resolved, (names _).mpr ⟨reached, overloaded, held⟩,
    (missing _).mpr ⟨.reference reached held refers (by decide), absent⟩⟩

end ClassAtlas
