import Mathlib.Order.Lattice.Nat
import ClassAtlas.Proofs.Closure.Line

/-!
# Breadth first

The distance of a class is the number of references it takes to get to it from a seed.
A resolution takes up the classes by their distance: first the seeds, then what the
seeds refer to, and so on. What waits is never more than one reference further away
than the name in front.
-/

namespace ClassAtlas

namespace Snapshot

/-- So many references lead to an admitted class from an admitted seed. -/
inductive Walk (snapshot : Snapshot) (whitelist : Whitelist) (seeds : List ClassName) :
    Nat → ClassName → Prop where
  | seed {name : ClassName} (listed : name ∈ seeds) (admitted : whitelist.admits name = true) :
      Walk snapshot whitelist seeds 0 name
  | reference {steps : Nat} {name other : ClassName} {decl : ClassDecl} {entry : ClassEntry}
      (reached : Walk snapshot whitelist seeds steps name) (held : snapshot.load name = .ok decl)
      (built : decl.toEntry whitelist.registry = .ok entry) (mentions : entry.Mentions other)
      (admitted : whitelist.admits other = true) :
      Walk snapshot whitelist seeds (steps + 1) other

noncomputable def distance (snapshot : Snapshot) (whitelist : Whitelist) (seeds : List ClassName)
    (name : ClassName) : Nat :=
  sInf {steps | snapshot.Walk whitelist seeds steps name}

variable {snapshot : Snapshot} {whitelist : Whitelist} {seeds : List ClassName}

theorem Walk.distance_le {steps : Nat} {name : ClassName}
    (walk : snapshot.Walk whitelist seeds steps name) :
    snapshot.distance whitelist seeds name ≤ steps :=
  Nat.sInf_le walk

theorem Walk.shortest {steps : Nat} {name : ClassName}
    (walk : snapshot.Walk whitelist seeds steps name) :
    snapshot.Walk whitelist seeds (snapshot.distance whitelist seeds name) name :=
  Nat.sInf_mem (s := {steps | snapshot.Walk whitelist seeds steps name}) ⟨steps, walk⟩

end Snapshot

/-!
# The line is in order
-/

namespace Resolver

variable {whitelist : Whitelist} {snapshot : Snapshot} {seeds : List ClassName}

/-- The line is ordered by distance, and nothing in it is more than one reference further
away than a name that waits. -/
structure InOrder (snapshot : Snapshot) (whitelist : Whitelist) (seeds : List ClassName)
    (resolver : Resolver) : Prop where
  first : (distinct seeds).filter whitelist.admits <+: resolver.line whitelist
  walked : ∀ name ∈ resolver.line whitelist, ∃ steps, snapshot.Walk whitelist seeds steps name
  ordered : (resolver.line whitelist).Pairwise fun nearer farther =>
    snapshot.distance whitelist seeds nearer ≤ snapshot.distance whitelist seeds farther
  near : ∀ name ∈ resolver.agenda.waiting, whitelist.admits name = true →
    ∀ other ∈ resolver.line whitelist,
      snapshot.distance whitelist seeds other ≤ snapshot.distance whitelist seeds name + 1

theorem InOrder.distance_front_le {resolver : Resolver}
    (inOrder : InOrder snapshot whitelist seeds resolver) {front other : ClassName}
    {rest : List ClassName} (waiting : resolver.agenda.waiting = front :: rest)
    (admitted : whitelist.admits front = true) (waits : other ∈ resolver.agenda.waiting)
    (admittedOther : whitelist.admits other = true) :
    snapshot.distance whitelist seeds front ≤ snapshot.distance whitelist seeds other := by
  have ordered := inOrder.ordered
  rw [line, waiting, List.filter_cons_of_pos admitted] at ordered
  rw [waiting] at waits
  rcases List.mem_cons.mp waits with rfl | inRest
  · exact Nat.le_refl _
  · exact (List.pairwise_cons.mp (List.pairwise_append.mp ordered).right.left).left other
      (List.mem_filter.mpr ⟨inRest, admittedOther⟩)

/-- The state of a resolution against a snapshot between two turns. -/
structure Sweeps (snapshot : Snapshot) (whitelist : Whitelist) (seeds : List ClassName)
    (resolver : Resolver) : Prop where
  running : Running whitelist snapshot.Serves resolver
  absent : ∀ name ∈ resolver.missing, ¬snapshot.Holds name
  inOrder : InOrder snapshot whitelist seeds resolver

theorem Sweeps.mem_line_of_seed {resolver : Resolver}
    (sweeps : Sweeps snapshot whitelist seeds resolver) {name : ClassName} (listed : name ∈ seeds)
    (admitted : whitelist.admits name = true) : name ∈ resolver.line whitelist := by
  apply sweeps.inOrder.first.subset
  exact List.mem_filter.mpr ⟨mem_distinct.mpr listed, admitted⟩

theorem Sweeps.mem_line_of_done {resolver : Resolver}
    (sweeps : Sweeps snapshot whitelist seeds resolver) {name other : ClassName}
    {decl : ClassDecl} {entry : ClassEntry} (isDone : name ∈ resolver.agenda.done)
    (held : snapshot.load name = .ok decl) (built : decl.toEntry whitelist.registry = .ok entry)
    (mentions : entry.Mentions other) (admitted : whitelist.admits other = true) :
    other ∈ resolver.line whitelist := by
  have coherent := sweeps.running.left.coherent
  rcases (coherent.done_iff name).mp isDone with isBuilt | isMissing
  · rcases List.mem_map.mp isBuilt with ⟨item, mem, rfl⟩
    rcases sweeps.running.left.rooted item mem with ⟨served, made, rooted⟩
    rcases Except.ok.inj (rooted.served.symm.trans held) with rfl
    rcases Except.ok.inj (rooted.made.symm.trans built) with rfl
    rcases ClassDecl.exists_mentions_of_toEntry built with ⟨names, mentioned⟩
    have inNames := (ClassEntry.mem_mentions_iff mentioned).mpr mentions
    exact (mem_line_iff coherent).mpr
      ⟨rooted.covered names mentioned other inNames admitted, admitted⟩
  · exact absurd ⟨decl, held⟩ (sweeps.absent name isMissing)

/-- Whatever is no farther than the name in front is in the line. -/
theorem Sweeps.mem_line_of_walk {resolver : Resolver}
    (sweeps : Sweeps snapshot whitelist seeds resolver) {front : ClassName}
    {rest : List ClassName} (waiting : resolver.agenda.waiting = front :: rest)
    (admitted : whitelist.admits front = true) {steps : Nat} {name : ClassName}
    (walk : snapshot.Walk whitelist seeds steps name)
    (within : steps ≤ snapshot.distance whitelist seeds front) :
    name ∈ resolver.line whitelist := by
  -- The last name of the walk but one is nearer than the name in front, so it is done.
  induction walk with
  | seed listed admittedSeed => exact sweeps.mem_line_of_seed listed admittedSeed
  | @reference steps name other decl entry reached held built mentions admittedOther ih =>
      have inLine := ih (Nat.le_of_succ_le within)
      rcases List.mem_append.mp inLine with isDone | stillWaits
      · exact sweeps.mem_line_of_done isDone held built mentions admittedOther
      · rcases List.mem_filter.mp stillWaits with ⟨waits, admittedName⟩
        have notNearer := sweeps.inOrder.distance_front_le waiting admitted waits admittedName
        have nearer := reached.distance_le
        omega

theorem TakesUp.distance_eq {resolver next : Resolver} {name : ClassName}
    {rest others : List ClassName}
    (takesUp : TakesUp snapshot whitelist resolver next name rest others)
    (sweeps : Sweeps snapshot whitelist seeds resolver) {other : ClassName}
    (isNew : other ∈ others) :
    (∃ steps, snapshot.Walk whitelist seeds steps other) ∧
      snapshot.distance whitelist seeds other = snapshot.distance whitelist seeds name + 1 := by
  have coherent := sweeps.running.left.coherent
  have inLine : name ∈ resolver.line whitelist :=
    (mem_line_iff coherent).mpr ⟨Or.inr takesUp.waits, takesUp.admitted⟩
  rcases sweeps.inOrder.walked name inLine with ⟨steps, walk⟩
  rcases takesUp.referred other isNew with ⟨admitted, decl, entry, held, built, mentions⟩
  have walkOther := Snapshot.Walk.reference walk.shortest held built mentions admitted
  refine ⟨⟨_, walkOther⟩, Nat.le_antisymm walkOther.distance_le ?_⟩
  apply Nat.lt_of_not_le
  intro within
  have known := sweeps.mem_line_of_walk takesUp.front takesUp.admitted walkOther.shortest within
  exact takesUp.fresh other isNew ((mem_line_iff coherent).mp known).left

theorem TakesUp.distance_le {resolver next : Resolver} {name : ClassName}
    {rest others : List ClassName}
    (takesUp : TakesUp snapshot whitelist resolver next name rest others)
    (sweeps : Sweeps snapshot whitelist seeds resolver) {other : ClassName}
    (waits : other ∈ next.agenda.waiting) (admitted : whitelist.admits other = true) :
    snapshot.distance whitelist seeds name ≤ snapshot.distance whitelist seeds other := by
  rw [takesUp.waiting] at waits
  rcases List.mem_append.mp waits with inRest | isNew
  · have waited : other ∈ resolver.agenda.waiting := by
      rw [takesUp.front]
      exact List.mem_cons_of_mem _ inRest
    exact sweeps.inOrder.distance_front_le takesUp.front takesUp.admitted waited admitted
  · rw [(takesUp.distance_eq sweeps isNew).right]
    exact Nat.le_succ _

theorem TakesUp.inOrder {resolver next : Resolver} {name : ClassName}
    {rest others : List ClassName}
    (takesUp : TakesUp snapshot whitelist resolver next name rest others)
    (sweeps : Sweeps snapshot whitelist seeds resolver) :
    InOrder snapshot whitelist seeds next := by
  have old := sweeps.inOrder
  have line := takesUp.line
  have beyond : ∀ other ∈ others, snapshot.distance whitelist seeds other =
      snapshot.distance whitelist seeds name + 1 :=
    fun other isNew => (takesUp.distance_eq sweeps isNew).right
  have fromName := old.near name takesUp.waits takesUp.admitted
  constructor
  · rw [line]
    exact old.first.trans (List.prefix_append _ _)
  · intro other inLine
    rw [line] at inLine
    rcases List.mem_append.mp inLine with before | isNew
    · exact old.walked other before
    · exact (takesUp.distance_eq sweeps isNew).left
  · rw [line]
    refine List.pairwise_append.mpr ⟨old.ordered, ?_, ?_⟩
    · apply List.pairwise_of_forall_mem_list
      intro left isLeft right isRight
      rw [beyond left isLeft, beyond right isRight]
    · intro other before last isLast
      rw [beyond last isLast]
      exact fromName other before
  · intro waiting waits admitted other inLine
    have least := takesUp.distance_le sweeps waits admitted
    rw [line] at inLine
    rcases List.mem_append.mp inLine with before | isNew
    · exact Nat.le_trans (fromName other before) (Nat.succ_le_succ least)
    · rw [beyond other isNew]
      exact Nat.succ_le_succ least

theorem InOrder.pass {resolver next : Resolver}
    (inOrder : InOrder snapshot whitelist seeds resolver) {name : ClassName}
    (notAdmitted : whitelist.admits name = false)
    (done : next.agenda.done = resolver.agenda.done)
    (waiting : resolver.agenda.waiting = name :: next.agenda.waiting) :
    InOrder snapshot whitelist seeds next := by
  have line : next.line whitelist = resolver.line whitelist := by
    rw [Resolver.line, Resolver.line, done, waiting,
      List.filter_cons_of_neg (Bool.not_eq_true _ ▸ notAdmitted)]
  refine ⟨line ▸ inOrder.first, line ▸ inOrder.walked, line ▸ inOrder.ordered, ?_⟩
  intro other waits
  rw [line]
  exact inOrder.near other (waiting ▸ List.mem_cons_of_mem _ waits)

theorem Sweeps.step {resolver next : Resolver} {journal later : Snapshot.Journal}
    (sweeps : Sweeps snapshot whitelist seeds resolver)
    (step : Step whitelist snapshot.source resolver journal next later) :
    Sweeps snapshot whitelist seeds next := by
  refine ⟨sweeps.running.step snapshot.serves_source step, step.absent sweeps.absent, ?_⟩
  rcases step.takesUp sweeps.running.left.coherent with
    ⟨_, done, name, notAdmitted, waiting⟩ | ⟨name, rest, others, takesUp, _⟩
  · exact sweeps.inOrder.pass notAdmitted done waiting
  · exact takesUp.inOrder sweeps

theorem sweeps_begin (snapshot : Snapshot) (whitelist : Whitelist) (seeds : List ClassName) :
    Sweeps snapshot whitelist seeds (start.addSeeds seeds).begin := by
  have waiting : (start.addSeeds seeds).begin.agenda.waiting = distinct seeds :=
    waiting_addSeeds seeds
  have line : (start.addSeeds seeds).begin.line whitelist =
      (distinct seeds).filter whitelist.admits := by
    rw [Resolver.line, waiting]
    show (start.addSeeds seeds).agenda.done ++ _ = _
    rw [done_addSeeds]
    rfl
  have walk : ∀ name ∈ (start.addSeeds seeds).begin.line whitelist,
      snapshot.Walk whitelist seeds 0 name := by
    intro name inLine
    rw [line] at inLine
    rcases List.mem_filter.mp inLine with ⟨listed, admitted⟩
    exact .seed (mem_distinct.mp listed) admitted
  have nearest : ∀ name ∈ (start.addSeeds seeds).begin.line whitelist,
      snapshot.distance whitelist seeds name = 0 :=
    fun name inLine => Nat.eq_zero_of_le_zero (walk name inLine).distance_le
  refine ⟨((sound_start whitelist snapshot.Serves).addSeeds seeds).running_begin, ?_, ?_⟩
  · intro name isMissing
    change name ∈ (start.addSeeds seeds).missing at isMissing
    rw [missing_addSeeds] at isMissing
    cases isMissing
  · constructor
    · rw [line]
    · intro name inLine
      exact ⟨0, walk name inLine⟩
    · apply List.pairwise_of_forall_mem_list
      intro left isLeft right isRight
      rw [nearest left isLeft, nearest right isRight]
    · intro name _ _ other inLine
      rw [nearest other inLine]
      exact Nat.zero_le _

theorem Sweeps.mem_done_iff {resolver : Resolver}
    (sweeps : Sweeps snapshot whitelist seeds resolver) (nothing : resolver.agenda.pending = [])
    {name : ClassName} :
    name ∈ resolver.agenda.done ↔ ∃ steps, snapshot.Walk whitelist seeds steps name := by
  have all : resolver.line whitelist = resolver.agenda.done := line_of_through nothing
  constructor
  · intro isDone
    exact sweeps.inOrder.walked name (all ▸ isDone)
  · intro found
    rcases found with ⟨steps, walk⟩
    rw [← all]
    induction walk with
    | seed listed admitted => exact sweeps.mem_line_of_seed listed admitted
    | reference reached held built mentions admitted ih =>
        exact sweeps.mem_line_of_done (all ▸ ih) held built mentions admitted

/-- How a resolution that succeeds has gone. -/
theorem exists_sweeps_of_drain (available : snapshot.unavailable = none)
    {journal later : Snapshot.Journal} {next : Resolver}
    {ends : Ends whitelist snapshot.source (start.addSeeds seeds).begin journal}
    (drained : (start.addSeeds seeds).drain whitelist snapshot.source journal ends =
      (.ok (), next, later)) :
    ∃ last : Resolver, next = last.finish ∧ last.agenda.pending = [] ∧
      Sweeps snapshot whitelist seeds last ∧ Fetches journal last later := by
  have preserved : ∀ (resolver : Resolver) (state : Snapshot.Journal) next after,
      Sweeps snapshot whitelist seeds resolver ∧ Fetches journal resolver state →
        Step whitelist snapshot.source resolver state next after →
          Sweeps snapshot whitelist seeds next ∧ Fetches journal next after := by
    intro resolver state next after holds step
    rcases holds with ⟨sweeps, fetches⟩
    exact ⟨sweeps.step step, fetches.step available sweeps.running.left.coherent step⟩
  have outcome := drain_outcome preserved ends fun _ =>
    ⟨sweeps_begin snapshot whitelist seeds, fetches_begin journal seeds⟩
  rw [drained] at outcome
  cases outcome with
  | through holds nothing => exact ⟨_, rfl, nothing, holds.left, holds.right⟩

end Resolver

/-- A resolution against an available snapshot takes up the classes by their distance from
the admitted seeds, so these come first and in the order in which they were asked for. What
it asks the snapshot for are the classes that can be reached, each once and in this order;
the entries of those that exist come in this order too. -/
theorem Whitelist.resolve_breadthFirst {whitelist : Whitelist} {snapshot : Snapshot}
    (available : snapshot.unavailable = none) {seeds : List ClassName}
    {journal later : Snapshot.Journal} {atlas : Atlas}
    (resolved : whitelist.resolve snapshot.source snapshot.finite_source seeds journal =
      (.ok atlas, later)) :
    ∃ fetched : List ClassName, later = journal ++ fetched ∧ fetched.Nodup ∧
      (∀ name, name ∈ fetched ↔ ∃ steps, snapshot.Walk whitelist seeds steps name) ∧
      fetched.Pairwise (fun nearer farther =>
        snapshot.distance whitelist seeds nearer ≤ snapshot.distance whitelist seeds farther) ∧
      (distinct seeds).filter whitelist.admits <+: fetched ∧
      atlas.names = fetched.filter (fun name => name ∉ atlas.missing) ∧
      atlas.names.Pairwise (fun nearer farther =>
        snapshot.distance whitelist seeds nearer ≤ snapshot.distance whitelist seeds farther) ∧
      (distinct seeds).filter whitelist.admits <+: atlas.names := by
  rcases Resolver.resolve_eq_ok_iff.mp resolved with ⟨next, drained, rfl⟩
  rcases Resolver.exists_sweeps_of_drain available drained with
    ⟨last, rfl, nothing, sweeps, fetches⟩
  have first := sweeps.inOrder.first
  have ordered := sweeps.inOrder.ordered
  rw [Resolver.line_of_through nothing] at first ordered
  have names : last.finish.names = last.agenda.done.filter fun name => name ∉ last.missing :=
    (Resolver.names_finish last).trans fetches.built
  have present : ((distinct seeds).filter whitelist.admits).filter
      (fun name => name ∉ last.missing) = (distinct seeds).filter whitelist.admits := by
    rw [List.filter_eq_self]
    intro name mem
    rcases List.mem_filter.mp mem with ⟨listed, admitted⟩
    have sound := (Resolver.sound_start whitelist snapshot.Serves).addSeeds seeds
    have honours := Resolver.honours_addSeeds (mem_distinct.mp listed) Resolver.start
    have kept := honours.drain snapshot.serves_source sound admitted journal _
      (congrArg Prod.fst drained)
    rw [drained] at kept
    exact decide_eq_true (kept.present rfl)
  refine ⟨last.agenda.done, fetches.fetched, sweeps.running.left.coherent.agenda.done_nodup,
    fun name => sweeps.mem_done_iff nothing, ordered, first, names, ?_, ?_⟩
  · show last.finish.names.Pairwise _
    rw [names]
    exact ordered.filter _
  · show _ <+: last.finish.names
    rw [names, ← present]
    exact first.filter _

open ClassDecl (overloaded) in
theorem Whitelist.resolve_breadthFirst_overloaded :
    ∃ atlas fetched, (Whitelist.ofRules [.package "a"]).resolve
        (Snapshot.ofDecls [overloaded]).source (Snapshot.ofDecls [overloaded]).finite_source
        [overloaded.name] [] = (.ok atlas, fetched) ∧
      [overloaded.name] <+: fetched ∧ ⟨"a.Gone"⟩ ∈ fetched ∧ [overloaded.name] <+: atlas.names := by
  rcases Resolver.build_overloaded with ⟨entry, built⟩
  rcases Resolver.drain_overloaded built with ⟨ends, last, later, drained, _⟩
  have resolved : (Whitelist.ofRules [.package "a"]).resolve
      (Snapshot.ofDecls [overloaded]).source (Snapshot.ofDecls [overloaded]).finite_source
      [overloaded.name] [] = (.ok _, later) := Resolver.resolve_eq_ok_iff.mpr ⟨_, drained, rfl⟩
  rcases resolve_breadthFirst rfl resolved with
    ⟨fetched, sameJournal, _, reached, _, first, _, _, firstNames⟩
  rcases ClassDecl.build_eq_ok_iff.mp built with ⟨made, names, mentioned, _⟩
  have refers := (ClassDecl.mem_references_of_build built mentioned).mp List.mem_cons_self
  have walk : (Snapshot.ofDecls [overloaded]).Walk (Whitelist.ofRules [.package "a"])
      [overloaded.name] 1 ⟨"a.Gone"⟩ :=
    .reference (.seed List.mem_cons_self (by decide)) rfl made
      ((ClassEntry.mem_mentions_iff mentioned).mp refers.left) (by decide)
  rw [List.nil_append] at sameJournal
  rw [sameJournal] at resolved
  exact ⟨_, fetched, resolved, first, (reached _).mpr ⟨1, walk⟩, firstNames⟩

end ClassAtlas
