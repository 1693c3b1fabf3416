import ClassAtlas.Proofs.Closure.History

/-!
# Requests are kept until a run fails

Once a resolver is drained, every admitted class asked for since a run last
failed is mapped. A failed run forgets what it was asked for and goes on listing
it: the next run succeeds without resolving any of it.
-/

namespace ClassAtlas

namespace Resolver

def asked : List Event → List ClassName
  | [] => []
  | .seeded name :: earlier => name :: asked earlier
  | .queued _ _ :: earlier => asked earlier
  | .listed outcome :: earlier => listedNames outcome ++ asked earlier
  | .drained _ :: earlier => asked earlier

/-- The names asked for since a run last failed. -/
def requested : List Event → List ClassName
  | [] => []
  | .seeded name :: earlier => name :: requested earlier
  | .queued _ _ :: earlier => requested earlier
  | .listed outcome :: earlier => listedNames outcome ++ requested earlier
  | .drained (.ok _) :: earlier => requested earlier
  | .drained (.error _) :: _ => []

/-!
# Seeds
-/

theorem mem_seeds_addSeed {resolver : Resolver} {name other : ClassName} :
    other ∈ (resolver.addSeed name).seeds ↔ other = name ∨ other ∈ resolver.seeds := by
  show other ∈ (if name ∈ resolver.seeds then resolver.seeds else resolver.seeds ++ [name]) ↔ _
  split
  · next already =>
      constructor
      · exact Or.inr
      · intro either
        rcases either with rfl | old
        · exact already
        · exact old
  · rw [List.mem_append, List.mem_singleton]
    exact Or.comm

theorem mem_seeds_addSeeds {resolver : Resolver} {names : List ClassName} {other : ClassName} :
    other ∈ (resolver.addSeeds names).seeds ↔ other ∈ names ∨ other ∈ resolver.seeds := by
  induction names generalizing resolver with
  | nil => simp [addSeeds]
  | cons first rest ih =>
      have later := @ih (resolver.addSeed first)
      rw [mem_seeds_addSeed] at later
      refine later.trans ?_
      rw [List.mem_cons, or_left_comm, or_assoc]

variable {whitelist : Whitelist}

theorem seeds_drain {source : ClassSource σ} (resolver : Resolver) (state : σ)
    (ends : Ends whitelist source resolver.begin state) :
    (resolver.drain whitelist source state ends).2.1.seeds = resolver.seeds := by
  have preserved : ∀ (earlier : Resolver) (state : σ) next later,
      earlier.seeds = resolver.seeds →
        Step whitelist source earlier state next later → next.seeds = resolver.seeds := by
    intro earlier state next later same step
    exact step.seeds.trans same
  have outcome := drain_outcome preserved ends fun _ => rfl
  generalize resolver.drain whitelist source state ends = result at outcome
  cases outcome with
  | overdue found => rfl
  | through same nothing => exact same
  | stopped same stops => rfl

theorem mem_seeds_iff_asked {events : List Event} {resolver : Resolver}
    (history : History whitelist events resolver) {name : ClassName} :
    name ∈ resolver.seeds ↔ name ∈ asked events := by
  induction history with
  | start => rfl
  | seeded earlier other ih => rw [mem_seeds_addSeed, asked, List.mem_cons, ih]
  | queued earlier other origin ih => exact ih
  | listed earlier source state ih =>
      rw [seedPackages_eq, mem_seeds_addSeeds, asked, List.mem_append, ih]
  | drained earlier source state ends ih => rw [seeds_drain, asked, ih]

/-!
# Names in hand
-/

def Awaits (name : ClassName) (resolver : Resolver) : Prop :=
  (name, Origin.seed) ∈ resolver.agenda.pending ∨ name ∈ resolver.names

theorem Awaits.step {name : ClassName} (admitted : whitelist.admits name = true)
    {source : ClassSource σ} {resolver next : Resolver} {state later : σ}
    (coherent : Coherent whitelist resolver) (awaits : Awaits name resolver)
    (step : Step whitelist source resolver state next later) : Awaits name next := by
  have before : ∀ {other : ClassName} {origin : Origin} {agenda : Agenda},
      resolver.agenda.pop? = some ((other, origin), agenda) →
        (name = other ∧ origin = .seed) ∨
          (name, Origin.seed) ∈ agenda.pending ∨ name ∈ resolver.names := by
    intro other origin agenda popped
    rcases awaits with waits | isBuilt
    · rw [(Agenda.pop?_eq_some_iff.mp popped).left] at waits
      rcases List.mem_cons.mp waits with isPopped | inRest
      · rcases Prod.mk.inj isPopped with ⟨rfl, rfl⟩
        exact Or.inl ⟨rfl, rfl⟩
      · exact Or.inr (Or.inl inRest)
    · exact Or.inr (Or.inr isBuilt)
  cases step with
  | pass popped idle =>
      rcases before popped with ⟨rfl, _⟩ | still
      · exact absurd idle ((coherent.taken popped).not_idle admitted)
      · exact still
  | build popped fresh admittedOther loaded answers built =>
      have notWaiting := (coherent.taken popped).notWaiting
      unfold Awaits
      rw [names_settle]
      rcases before popped with ⟨rfl, _⟩ | waits | isBuilt
      · exact Or.inr (List.mem_append_right _ (List.mem_singleton.mpr rfl))
      · refine Or.inl (Agenda.mem_requests_addReferences.mpr ?_)
        rw [Agenda.pending_markDone_of_not_mem notWaiting]
        exact waits
      · exact Or.inr (List.mem_append_left _ isBuilt)
  | skip popped fresh admittedOther loaded =>
      have notWaiting := (coherent.taken popped).notWaiting
      rcases before popped with ⟨_, impossible⟩ | waits | isBuilt
      · cases impossible
      · refine Or.inl ?_
        show (name, Origin.seed) ∈ (Agenda.markDone _ _).pending
        rw [Agenda.pending_markDone_of_not_mem notWaiting]
        exact waits
      · exact Or.inr isBuilt

/-- A request that a resolver will honour, or has honoured. -/
structure Honours (resolver : Resolver) (name : ClassName) : Prop where
  listed : name ∈ resolver.seeds
  taken : (name, Origin.seed) ∈ resolver.agenda.pending ∨ name ∈ resolver.agenda.done
  present : resolver.phase = .drained → name ∉ resolver.missing

theorem Honours.addTodo {resolver : Resolver} {name : ClassName}
    (honours : Honours resolver name) (other : ClassName) (origin : Origin) :
    Honours (resolver.addTodo other origin) name := by
  rw [addTodo_eq]
  constructor
  · exact honours.listed
  · rcases honours.taken with waits | isDone
    · exact Or.inl (Agenda.mem_requests_add.mpr (Or.inl waits))
    · refine Or.inr ?_
      rw [Agenda.done_add]
      exact isDone
  · intro drained
    simp only at drained
    split at drained
    · cases drained
    · exact honours.present drained

theorem Honours.noteSeed {resolver : Resolver} {name : ClassName}
    (honours : Honours resolver name) (other : ClassName) :
    Honours (resolver.noteSeed other) name := by
  constructor
  · exact mem_seeds_addSeed.mpr (Or.inr honours.listed)
  · exact honours.taken
  · intro drained
    unfold Resolver.noteSeed at drained
    simp only at drained
    split at drained
    · cases drained
    · exact honours.present drained

theorem Honours.addSeed {resolver : Resolver} {name : ClassName}
    (honours : Honours resolver name) (other : ClassName) :
    Honours (resolver.addSeed other) name :=
  (honours.noteSeed other).addTodo other .seed

theorem honours_addSeed (resolver : Resolver) (name : ClassName) :
    Honours (resolver.addSeed name) name := by
  rw [addSeed_eq, addTodo_eq]
  constructor
  · exact mem_seeds_addSeed.mpr (Or.inl rfl)
  · by_cases isDone : name ∈ resolver.agenda.done
    · refine Or.inr ?_
      rw [Agenda.done_add]
      exact isDone
    · exact Or.inl (Agenda.mem_requests_add.mpr (Or.inr ⟨rfl, rfl, isDone⟩))
  · intro drained
    simp only at drained
    split at drained
    · cases drained
    · unfold Resolver.noteSeed at drained
      simp only at drained
      split at drained
      · cases drained
      · next notMissing => exact notMissing

theorem Honours.addSeeds {resolver : Resolver} {name : ClassName}
    (honours : Honours resolver name) (names : List ClassName) :
    Honours (resolver.addSeeds names) name := by
  induction names generalizing resolver with
  | nil => exact honours
  | cons first rest ih => exact ih (honours.addSeed first)

theorem honours_addSeeds {names : List ClassName} {name : ClassName} (mem : name ∈ names)
    (resolver : Resolver) : Honours (resolver.addSeeds names) name := by
  induction names generalizing resolver with
  | nil => cases mem
  | cons first rest ih =>
      rcases List.mem_cons.mp mem with rfl | later
      · exact (honours_addSeed resolver name).addSeeds rest
      · exact ih later (resolver.addSeed first)

theorem Honours.drain {served : ClassName → ClassDecl → Prop} {source : ClassSource σ}
    (serves : Serves source served) {resolver : Resolver}
    (sound : Sound whitelist served resolver) {name : ClassName}
    (admitted : whitelist.admits name = true) (honours : Honours resolver name) (state : σ)
    (ends : Ends whitelist source resolver.begin state)
    (succeeded : (resolver.drain whitelist source state ends).1 = .ok ()) :
    Honours (resolver.drain whitelist source state ends).2.1 name := by
  have listed := honours.listed
  rw [← seeds_drain resolver state ends] at listed
  have later := sound.drain serves state ends
  have preserved : ∀ (resolver : Resolver) (state : σ) next later,
      Running whitelist served resolver ∧ Awaits name resolver →
        Step whitelist source resolver state next later →
          Running whitelist served next ∧ Awaits name next := by
    intro resolver state next later holds step
    rcases holds with ⟨running, awaits⟩
    exact ⟨running.step serves step, awaits.step admitted running.left.coherent step⟩
  have outcome := drain_outcome preserved ends fun notOverdue => by
    refine ⟨sound.running_begin, ?_⟩
    rcases honours.taken with waits | isDone
    · exact Or.inl waits
    · rcases (sound.coherent.done_iff name).mp isDone with isBuilt | isMissing
      · exact Or.inr isBuilt
      · exact absurd isMissing (overdueSeed?_eq_none_iff.mp notOverdue name honours.listed)
  generalize resolver.drain whitelist source state ends = result at *
  cases outcome with
  | overdue found => cases succeeded
  | stopped holds stops => cases succeeded
  | @through last after holds nothing =>
      have isBuilt : name ∈ last.finish.names := by
        rw [names_finish]
        rcases holds.right with waits | isBuilt
        · rw [nothing] at waits
          cases waits
        · exact isBuilt
      exact ⟨listed, Or.inr ((later.coherent.done_iff name).mpr (Or.inl isBuilt)),
        fun _ => later.coherent.apart name isBuilt⟩

theorem honours_of_requested {events : List Event} {resolver : Resolver}
    (history : History whitelist events resolver) {name : ClassName}
    (admitted : whitelist.admits name = true) (isRequested : name ∈ requested events) :
    Honours resolver name := by
  induction history with
  | start => cases isRequested
  | @seeded events resolver earlier other ih =>
      rcases List.mem_cons.mp isRequested with rfl | before
      · exact honours_addSeed resolver name
      · exact (ih before).addSeed other
  | queued earlier other origin ih => exact (ih isRequested).addTodo other origin
  | @listed _ events resolver earlier source state ih =>
      rw [seedPackages_eq]
      rcases List.mem_append.mp isRequested with isListed | before
      · exact honours_addSeeds isListed resolver
      · exact (ih before).addSeeds _
  | drained earlier source state ends ih =>
      cases succeeded : (Resolver.drain whitelist source _ state ends).1 with
      | error failure =>
          rw [succeeded] at isRequested
          cases isRequested
      | ok done =>
          rw [succeeded] at isRequested
          exact (ih isRequested).drain (serves_any source) earlier.sound admitted state ends
            succeeded

/-!
# After a failed run
-/

theorem drain_failed {source : ClassSource σ} {resolver : Resolver} {state : σ}
    {ends : Ends whitelist source resolver.begin state} {failure : Failure}
    (failed : (resolver.drain whitelist source state ends).1 = .error failure) :
    (resolver.drain whitelist source state ends).2.1 = resolver.abort := by
  have outcome := drain_outcome (fun _ _ _ _ _ _ => trivial) ends fun _ => trivial
  generalize resolver.drain whitelist source state ends = result at *
  cases outcome with
  | overdue found => rfl
  | through holds nothing => cases failed
  | stopped holds stops => rfl

/-- Draining a resolver that has given up succeeds at once. -/
theorem drain_abort {source : ClassSource σ} (resolver : Resolver) (state : σ)
    (ends : Ends whitelist source resolver.abort.begin state) :
    resolver.abort.drain whitelist source state ends =
      (.ok (), resolver.abort.begin.finish, state) := by
  have notOverdue : resolver.abort.overdueSeed? = none := by
    rw [overdueSeed?_eq_none_iff]
    exact fun name _ isMissing => nomatch isMissing
  exact drain_of_run_ok notOverdue (run_of_through rfl ends)

/-- Once a resolver is drained, the admitted names asked for since a run last failed
are mapped. All names ever asked for are listed, though: right after a failed run
draining succeeds without a request to the source and maps none of them. -/
theorem requests_kept_since_failure {events : List Event} {resolver : Resolver}
    (history : History whitelist events resolver) :
    (resolver.phase = .drained → ∀ name ∈ requested events, whitelist.admits name = true →
      name ∈ resolver.seeds ∧ name ∈ resolver.names ∧ name ∉ resolver.missing) ∧
    (∀ name, name ∈ resolver.seeds ↔ name ∈ asked events) ∧
    (∀ failure earlier, events = .drained (.error failure) :: earlier →
      ∀ (σ : Type) (source : ClassSource σ) (state : σ)
        (ends : Ends whitelist source resolver.begin state),
        ∃ next, resolver.drain whitelist source state ends = (.ok (), next, state) ∧
          next.phase = .drained ∧ next.seeds = resolver.seeds ∧ next.names = [] ∧
          next.missing = []) := by
  refine ⟨?_, fun name => mem_seeds_iff_asked history, ?_⟩
  · intro drained name isRequested admitted
    have honours := honours_of_requested history admitted isRequested
    have present := honours.present drained
    have coherent := history.sound.coherent
    refine ⟨honours.listed, ?_, present⟩
    rcases honours.taken with waits | isDone
    · rw [coherent.quiet drained] at waits
      cases waits
    · rcases (coherent.done_iff name).mp isDone with isBuilt | isMissing
      · exact isBuilt
      · exact absurd isMissing present
  · intro failure earlier failedLast σ source state ends
    cases history with
    | start => cases failedLast
    | seeded before name => cases failedLast
    | queued before name origin => cases failedLast
    | listed before other otherState => cases failedLast
    | drained before other otherState otherEnds =>
        have failed := drain_failed (Event.drained.inj (List.cons.inj failedLast).left)
        revert ends
        rw [failed]
        intro ends
        exact ⟨_, drain_abort _ state ends, rfl, rfl, rfl, rfl⟩

open ClassDecl (overloaded) in
/-- A class is asked for while the source is gone. When the source is back, draining
succeeds without it. -/
theorem requests_kept_since_failure_lost :
    ∃ (resolver next : Resolver) (events : List Event)
      (ends : Ends (Whitelist.ofRules [.package "a"]) (Snapshot.ofDecls [overloaded]).source
        resolver.begin []),
      History (Whitelist.ofRules [.package "a"]) events resolver ∧
      resolver.drain (Whitelist.ofRules [.package "a"])
        (Snapshot.ofDecls [overloaded]).source [] ends = (.ok (), next, []) ∧
      next.phase = .drained ∧ overloaded.name ∈ next.seeds ∧
      (Whitelist.ofRules [.package "a"]).admits overloaded.name = true ∧
      overloaded.name ∉ next.names := by
  have gone := ends_of_finite (Snapshot.mk [] (some "gone")).finite_source
    (Whitelist.ofRules [.package "a"]) (start.addSeed overloaded.name).begin []
  have failed : turn (Whitelist.ofRules [.package "a"]) (Snapshot.mk [] (some "gone")).source
      (start.addSeed overloaded.name).begin [] =
        .failed overloaded.name (.unavailable "gone") [] := rfl
  have stopped := drain_of_run_error rfl (run_of_failed failed gone)
  have history := (History.start.seeded overloaded.name).drained
    (Snapshot.mk [] (some "gone")).source [] gone
  rw [stopped] at history
  have ends := ends_of_finite (Snapshot.ofDecls [overloaded]).finite_source
    (Whitelist.ofRules [.package "a"]) (start.addSeed overloaded.name).abort.begin []
  rcases (requests_kept_since_failure history).right.right _ _ rfl _
    (Snapshot.ofDecls [overloaded]).source [] ends with
    ⟨next, succeeded, drained, seeds, names, _⟩
  have asked := ((requests_kept_since_failure history).right.left overloaded.name).mpr
    List.mem_cons_self
  refine ⟨_, next, _, ends, history, succeeded, drained, seeds ▸ asked, by decide, ?_⟩
  rw [names]
  exact List.not_mem_nil

end Resolver
end ClassAtlas
