import ClassAtlas.Proofs.Closure.Reachability

/-!
# The line

A resolution takes up names in the order in which they came to wait. What is done, and
behind it what waits to be taken up, stand in a line, and a turn only ever appends to it:
the names that the class taken up refers to and that are new. Against a snapshot the names
done are those that it was asked for.
-/

namespace ClassAtlas

namespace Agenda

/-!
# Names that come to wait

Adding names makes those wait that are not known yet, behind the others and in the
order in which they are first added.
-/

theorem isUnseen_iff {agenda : Agenda} {name : ClassName} :
    (!agenda.isPending name && !agenda.isDone name) = true ↔ ¬agenda.Knows name := by
  rw [Bool.and_eq_true, Bool.not_eq_true', Bool.not_eq_true', ← Bool.not_eq_true,
    ← Bool.not_eq_true, isPending_iff, isDone_iff, Knows, not_or, and_comm]

theorem mem_unseen_iff {agenda : Agenda} {known : List ClassName} {name : ClassName} :
    name ∈ agenda.unseen known ↔ name ∈ known ∧ ¬agenda.Knows name := by
  rw [unseen, List.mem_filter, mem_distinct, isUnseen_iff]

theorem unseen_add (agenda : Agenda) (name : ClassName) (origin : Origin)
    (known : List ClassName) :
    (agenda.add name origin).2.unseen known =
      (agenda.unseen known).filter fun other => other ≠ name := by
  unfold unseen
  rw [List.filter_filter]
  apply List.filter_congr
  intro other _
  rw [Bool.eq_iff_iff, isUnseen_iff, Bool.and_eq_true, isUnseen_iff, knows_add, not_or,
    decide_eq_true_iff, and_comm]

theorem waiting_add (agenda : Agenda) (name : ClassName) (origin : Origin) :
    (agenda.add name origin).2.waiting = agenda.waiting ++ agenda.unseen [name] := by
  have either : agenda.unseen [name] =
      if !agenda.isPending name && !agenda.isDone name then [name] else [] := List.filter_cons
  rw [either]
  rcases agenda.add_eq name origin with
    ⟨isDone, same⟩ | ⟨_, waits, same⟩ | ⟨fresh, notWaiting, same⟩
  · rw [same, if_neg (fun isNew => isUnseen_iff.mp isNew (Or.inl isDone)), List.append_nil]
  · rw [same, if_neg (fun isNew => isUnseen_iff.mp isNew (Or.inr waits)), List.append_nil]
    exact waiting_map_upgrade name origin agenda.pending
  · rw [same, if_pos (isUnseen_iff.mpr (not_or.mpr ⟨fresh, notWaiting⟩))]
    exact List.map_append

theorem waiting_adds (agenda : Agenda) (names : List ClassName) (origin : Origin) :
    (names.foldl (fun current name => (current.add name origin).2) agenda).waiting =
      agenda.waiting ++ agenda.unseen names := by
  induction names generalizing agenda with
  | nil => exact (List.append_nil _).symm
  | cons first rest ih =>
      have split : agenda.unseen (first :: rest) =
          agenda.unseen [first] ++ (agenda.unseen rest).filter fun name => name ≠ first := by
        unfold unseen
        rw [distinct, ← List.singleton_append, List.filter_append, List.filter_comm]
        rfl
      rw [List.foldl_cons, ih, unseen_add, split, waiting_add, List.append_assoc]

end Agenda

/-- An entry has a class as a supertype or spells it in the type of a member. -/
def ClassEntry.Mentions (entry : ClassEntry) (name : ClassName) : Prop :=
  name ∈ entry.supertypes ∨
    ∃ spelling ∈ entry.sourceTypes, ClassDecl.namedBy? spelling = some name

/-!
# Taking up a name
-/

namespace Resolver

def line (whitelist : Whitelist) (resolver : Resolver) : List ClassName :=
  resolver.agenda.done ++ resolver.agenda.waiting.filter whitelist.admits

variable {whitelist : Whitelist} {snapshot : Snapshot}

theorem mem_line_iff {resolver : Resolver} (coherent : Coherent whitelist resolver)
    {name : ClassName} :
    name ∈ resolver.line whitelist ↔
      resolver.agenda.Knows name ∧ whitelist.admits name = true := by
  rw [line, List.mem_append, List.mem_filter]
  constructor
  · intro inLine
    rcases inLine with isDone | ⟨waits, admitted⟩
    · exact ⟨Or.inl isDone, coherent.admitted name isDone⟩
    · exact ⟨Or.inr waits, admitted⟩
  · intro known
    rcases known with ⟨isDone | waits, admitted⟩
    · exact Or.inl isDone
    · exact Or.inr ⟨waits, admitted⟩

theorem line_of_through {resolver : Resolver} (nothing : resolver.agenda.pending = []) :
    resolver.line whitelist = resolver.agenda.done := by
  rw [line, Agenda.waiting, nothing]
  exact List.append_nil _

theorem waiting_addSeeds (names : List ClassName) :
    (start.addSeeds names).agenda.waiting = distinct names := by
  have agenda : ∀ (resolver : Resolver), (resolver.addSeeds names).agenda =
      names.foldl (fun current name => (current.add name .seed).2) resolver.agenda := by
    intro resolver
    induction names generalizing resolver with
    | nil => rfl
    | cons first rest ih => exact ih (resolver.addSeed first)
  rw [agenda, Agenda.waiting_adds]
  exact List.filter_true _

theorem done_markDone_of_taken {resolver : Resolver} {name : ClassName} {agenda : Agenda}
    (taken : Taken resolver name agenda) :
    (agenda.markDone name).done = resolver.agenda.done ++ [name] := by
  rw [← taken.done]
  exact if_neg taken.fresh

theorem waiting_markDone_of_taken {resolver : Resolver} {name : ClassName} {agenda : Agenda}
    (taken : Taken resolver name agenda) : (agenda.markDone name).waiting = agenda.waiting := by
  rw [Agenda.waiting, Agenda.pending_markDone_of_not_mem taken.notWaiting]
  rfl

theorem done_settle_of_taken {resolver : Resolver} {name : ClassName} {agenda : Agenda}
    (taken : Taken resolver name agenda) (entry : ClassEntry) (references : List ClassName) :
    (Resolver.settle { resolver with agenda } name entry references).agenda.done =
      resolver.agenda.done ++ [name] :=
  (Agenda.done_addReferences _ _).trans (done_markDone_of_taken taken)

structure TakesUp (snapshot : Snapshot) (whitelist : Whitelist) (resolver next : Resolver)
    (name : ClassName) (rest others : List ClassName) : Prop where
  admitted : whitelist.admits name = true
  front : resolver.agenda.waiting = name :: rest
  done : next.agenda.done = resolver.agenda.done ++ [name]
  waiting : next.agenda.waiting = rest ++ others
  fresh : ∀ other ∈ others, ¬resolver.agenda.Knows other
  referred : ∀ other ∈ others, whitelist.admits other = true ∧
    ∃ decl entry, snapshot.load name = .ok decl ∧ decl.toEntry whitelist.registry = .ok entry ∧
      entry.Mentions other

theorem Step.takesUp {resolver next : Resolver} {journal later : Snapshot.Journal}
    (coherent : Coherent whitelist resolver)
    (step : Step whitelist snapshot.source resolver journal next later) :
    (later = journal ∧ next.agenda.done = resolver.agenda.done ∧
      ∃ name, whitelist.admits name = false ∧
        resolver.agenda.waiting = name :: next.agenda.waiting) ∨
    ∃ name rest others, TakesUp snapshot whitelist resolver next name rest others ∧
      later = snapshot.note name journal := by
  cases step with
  | @pass name origin agenda popped idle =>
      have taken := coherent.taken popped
      have notAdmitted := idle.resolve_left taken.fresh
      exact Or.inl ⟨rfl, taken.done, name, notAdmitted, Agenda.waiting_of_pop? popped⟩
  | @build name origin agenda decl _ entry references popped fresh admitted loaded answers built =>
      have taken := coherent.taken popped
      have marked : ∀ other, (agenda.markDone name).Knows other ↔ resolver.agenda.Knows other := by
        intro other
        rw [Agenda.knows_markDone, Agenda.knows_of_pop? popped]
      have held : snapshot.load name = .ok decl := (Prod.mk.inj loaded).left
      rcases ClassDecl.build_eq_ok_iff.mp built with ⟨made, names, mentioned, _⟩
      refine Or.inr ⟨name, agenda.waiting, (agenda.markDone name).unseen references, ?_,
        (Prod.mk.inj loaded).right.symm⟩
      refine ⟨admitted, Agenda.waiting_of_pop? popped, ?_, ?_, ?_, ?_⟩
      · exact done_settle_of_taken taken entry references
      · refine (Agenda.waiting_adds _ _ _).trans ?_
        rw [waiting_markDone_of_taken taken]
      · intro other isNew
        rw [← marked]
        exact (Agenda.mem_unseen_iff.mp isNew).right
      · intro other isNew
        have refers := (Agenda.mem_unseen_iff.mp isNew).left
        rcases (ClassDecl.mem_references_of_build built mentioned).mp refers with
          ⟨inNames, _, _, admittedOther⟩
        exact ⟨admittedOther, decl, entry, held, made,
          (ClassEntry.mem_mentions_iff mentioned).mp inNames⟩
  | @skip name absent agenda _ popped fresh admitted loaded =>
      have taken := coherent.taken popped
      refine Or.inr ⟨name, agenda.waiting, [], ?_, (Prod.mk.inj loaded).right.symm⟩
      refine ⟨admitted, Agenda.waiting_of_pop? popped, done_markDone_of_taken taken, ?_,
        List.forall_mem_nil _, List.forall_mem_nil _⟩
      rw [List.append_nil]
      exact waiting_markDone_of_taken taken

theorem TakesUp.waits {resolver next : Resolver} {name : ClassName} {rest others : List ClassName}
    (takesUp : TakesUp snapshot whitelist resolver next name rest others) :
    name ∈ resolver.agenda.waiting := by
  rw [takesUp.front]
  exact List.mem_cons_self

theorem TakesUp.line {resolver next : Resolver} {name : ClassName} {rest others : List ClassName}
    (takesUp : TakesUp snapshot whitelist resolver next name rest others) :
    next.line whitelist = resolver.line whitelist ++ others := by
  have all : others.filter whitelist.admits = others :=
    List.filter_eq_self.mpr fun other isNew => (takesUp.referred other isNew).left
  rw [Resolver.line, Resolver.line, takesUp.done, takesUp.waiting, takesUp.front,
    List.filter_append, all, List.filter_cons_of_pos takesUp.admitted]
  simp only [List.append_assoc, List.cons_append, List.nil_append]

/-!
# Requests to the snapshot
-/

/-- The names done are those the snapshot was asked for since, and those of them that are
not missing are built. -/
structure Fetches (before : Snapshot.Journal) (resolver : Resolver) (journal : Snapshot.Journal) :
    Prop where
  fetched : journal = before ++ resolver.agenda.done
  built : resolver.names = resolver.agenda.done.filter fun name => name ∉ resolver.missing

theorem Fetches.step {before : Snapshot.Journal} {resolver next : Resolver}
    {journal later : Snapshot.Journal} (available : snapshot.unavailable = none)
    (coherent : Coherent whitelist resolver) (fetches : Fetches before resolver journal)
    (step : Step whitelist snapshot.source resolver journal next later) :
    Fetches before next later := by
  constructor
  · rcases step.takesUp coherent with ⟨rfl, done, _⟩ | ⟨name, _, _, takesUp, rfl⟩
    · rw [done]
      exact fetches.fetched
    · rw [Snapshot.note, available, takesUp.done, ← List.append_assoc, ← fetches.fetched]
      rfl
  · cases step with
    | @pass name origin agenda popped idle =>
        show resolver.names = agenda.done.filter fun name => name ∉ resolver.missing
        rw [(coherent.taken popped).done]
        exact fetches.built
    | @build name origin agenda _ _ entry references popped fresh admitted loaded answers built =>
        have taken := coherent.taken popped
        have last : [name].filter (fun other => other ∉ resolver.missing) = [name] :=
          List.filter_cons_of_pos (decide_eq_true taken.present)
        rw [names_settle, done_settle_of_taken taken, List.filter_append]
        exact congr (congrArg _ fetches.built) last.symm
    | @skip name absent agenda _ popped fresh admitted loaded =>
        have taken := coherent.taken popped
        have done : (agenda.markDone name).done = resolver.agenda.done ++ [name] :=
          done_markDone_of_taken taken
        have old : resolver.agenda.done.filter (fun other => other ∉ resolver.missing ++ [name]) =
            resolver.agenda.done.filter fun other => other ∉ resolver.missing := by
          apply List.filter_congr
          intro other isDone
          have different : other ≠ name := fun same => taken.fresh (taken.done ▸ same ▸ isDone)
          simp [different]
        have last : [name].filter (fun other => other ∉ resolver.missing ++ [name]) = [] :=
          List.filter_cons_of_neg (by simp)
        show resolver.names = (agenda.markDone name).done.filter fun other =>
          other ∉ resolver.missing ++ [name]
        rw [done, List.filter_append, old, last, List.append_nil]
        exact fetches.built

theorem fetches_begin (journal : Snapshot.Journal) (seeds : List ClassName) :
    Fetches journal (start.addSeeds seeds).begin journal := by
  have done : (start.addSeeds seeds).begin.agenda.done = [] := done_addSeeds start seeds
  have names : (start.addSeeds seeds).begin.names = [] := names_addSeeds start seeds
  constructor
  · rw [done, List.append_nil]
  · rw [done, names]
    rfl

end Resolver
end ClassAtlas
