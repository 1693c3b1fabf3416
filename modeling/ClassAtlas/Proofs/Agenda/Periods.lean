import Mathlib.Data.List.Induction
import ClassAtlas.Proofs.Agenda

/-!
# Periods of waiting

An agenda is used by adding names, taking the oldest, marking names as done and clearing it, in
any order. A name waits from the operation that adds it to the one that takes it off, however
often it is added in between, and the name taken is the one that has waited longest.
-/

namespace ClassAtlas
namespace Agenda

inductive Operation where
  | add (name : ClassName) (origin : Origin)
  | pop
  | markDone (name : ClassName)
  | clear

def apply (agenda : Agenda) : Operation → Agenda
  | .add name origin => (agenda.add name origin).2
  | .pop =>
      match agenda.pop? with
      | none => agenda
      | some (_, rest) => rest
  | .markDone name => agenda.markDone name
  | .clear => empty

def after (operations : List Operation) : Agenda :=
  operations.foldl apply empty

theorem after_concat (operations : List Operation) (last : Operation) :
    after (operations ++ [last]) = (after operations).apply last := by
  rw [after, List.foldl_append]
  rfl

/-- The operation with this number has added the name, which did not wait before and has waited
ever since. -/
structure WaitsSince (operations : List Operation) (name : ClassName) (start : Nat) : Prop where
  added : ∃ origin, operations[start]? = some (.add name origin)
  fresh : (after (operations.take start)).isPending name = false
  ever : ∀ moment, start < moment → moment ≤ operations.length →
    (after (operations.take moment)).isPending name = true

/-- The operation with this number or a later one has added the name as a seed. -/
def AskedSince (operations : List Operation) (name : ClassName) (start : Nat) : Prop :=
  ∃ moment, start ≤ moment ∧ operations[moment]? = some (.add name .seed)

/-!
# One operation
-/

theorem apply_pop_cases (agenda : Agenda) :
    (agenda.pop? = none ∧ agenda.apply .pop = agenda) ∨
      ∃ oldest, agenda.pop? = some (oldest, agenda.apply .pop) := by
  cases popped : agenda.pop? with
  | none => exact Or.inl ⟨rfl, by simp [apply, popped]⟩
  | some taken => exact Or.inr ⟨taken.1, by simp [apply, popped]⟩

theorem waiting_apply (agenda : Agenda) (operation : Operation) :
    (agenda.apply operation).waiting.Sublist agenda.waiting ∨
      ∃ name origin, operation = .add name origin ∧ name ∉ agenda.waiting ∧
        (agenda.apply operation).waiting = agenda.waiting ++ [name] := by
  cases operation with
  | add name origin =>
      show (agenda.add name origin).2.waiting.Sublist _ ∨ _
      rcases agenda.add_eq name origin with ⟨_, same⟩ | ⟨_, _, same⟩ | ⟨_, notWaiting, same⟩
      · rw [same]
        exact Or.inl (List.Sublist.refl _)
      · rw [same, waiting, waiting_map_upgrade]
        exact Or.inl (List.Sublist.refl _)
      · refine Or.inr ⟨name, origin, rfl, notWaiting, ?_⟩
        show (agenda.add name origin).2.waiting = _
        rw [same]
        exact List.map_append
  | pop =>
      refine Or.inl ?_
      rcases agenda.apply_pop_cases with ⟨_, same⟩ | ⟨oldest, popped⟩
      · rw [same]
      · rw [waiting_of_pop? popped]
        exact List.sublist_cons_self _ _
  | markDone name =>
      show (agenda.markDone name).waiting.Sublist _ ∨ _
      rw [waiting_markDone]
      exact Or.inl List.filter_sublist
  | clear => exact Or.inl (List.nil_sublist _)

theorem WellFormed.apply {agenda : Agenda} (wellFormed : agenda.WellFormed)
    (operation : Operation) : (agenda.apply operation).WellFormed := by
  cases operation with
  | add name origin => exact wellFormed_add wellFormed name origin
  | pop =>
      rcases agenda.apply_pop_cases with ⟨_, same⟩ | ⟨oldest, popped⟩
      · rw [same]
        exact wellFormed
      · exact (wellFormed_pop? popped wellFormed).left
  | markDone name => exact wellFormed_markDone wellFormed name
  | clear => exact wellFormed_empty

/-- What waits after an operation has waited before, as a seed if it did so before or is added as
one now, or is added now. -/
theorem mem_pending_apply {agenda : Agenda} (wellFormed : agenda.WellFormed)
    {operation : Operation} {item : ClassName × Origin}
    (mem : item ∈ (agenda.apply operation).pending) :
    (∃ origin, (item.1, origin) ∈ agenda.pending ∧
      (item.2 = .seed ↔ origin = .seed ∨ operation = .add item.1 .seed)) ∨
    (item.1 ∉ agenda.waiting ∧ operation = .add item.1 item.2) := by
  cases operation with
  | add name origin =>
      change item ∈ (agenda.add name origin).2.pending at mem
      rcases agenda.add_eq name origin with ⟨isDone, same⟩ | ⟨_, _, same⟩ | ⟨_, notWaiting, same⟩
      · rw [same] at mem
        refine Or.inl ⟨item.2, mem, ?_⟩
        have notName : name ≠ item.1 := by
          intro isName
          exact wellFormed.fresh item.1 (List.mem_map_of_mem mem) (isName ▸ isDone)
        simp [notName]
      · rw [same] at mem
        rcases List.mem_map.mp mem with ⟨old, inPending, rfl⟩
        rw [fst_upgrade]
        refine Or.inl ⟨old.2, inPending, ?_⟩
        rw [snd_upgrade_eq_seed_iff, Operation.add.injEq]
      · rw [same] at mem
        rcases List.mem_append.mp mem with old | isNew
        · have notName : name ≠ item.1 := fun isName =>
            notWaiting (isName ▸ List.mem_map_of_mem old)
          exact Or.inl ⟨item.2, old, by simp [notName]⟩
        · rcases List.mem_singleton.mp isNew with rfl
          exact Or.inr ⟨notWaiting, rfl⟩
  | pop =>
      refine Or.inl ⟨item.2, ?_, by simp⟩
      rcases agenda.apply_pop_cases with ⟨_, same⟩ | ⟨oldest, popped⟩
      · rw [same] at mem
        exact mem
      · rw [(pop?_eq_some_iff.mp popped).left]
        exact List.mem_cons_of_mem _ mem
  | markDone name =>
      exact Or.inl ⟨item.2, (List.mem_filter.mp mem).left, by simp⟩
  | clear => exact absurd mem List.not_mem_nil

/-!
# One more operation
-/

variable {operations : List Operation} {last : Operation} {name other : ClassName}
  {start later : Nat}

theorem WaitsSince.lt (since : WaitsSince operations name start) : start < operations.length := by
  rcases since.added with ⟨_, added⟩
  exact (List.getElem?_eq_some_iff.mp added).1

theorem WaitsSince.isPending (since : WaitsSince operations name start) :
    (after operations).isPending name = true := by
  have now := since.ever operations.length since.lt (Nat.le_refl _)
  rwa [List.take_length] at now

theorem WaitsSince.unique (since : WaitsSince operations name start)
    (again : WaitsSince operations name later) : start = later := by
  rcases Nat.lt_trichotomy start later with early | same | late
  · have waits := since.ever later early (Nat.le_of_lt again.lt)
    rw [again.fresh] at waits
    cases waits
  · exact same
  · have waits := again.ever start late (Nat.le_of_lt since.lt)
    rw [since.fresh] at waits
    cases waits

theorem WaitsSince.concat (since : WaitsSince operations name start)
    (waits : (after (operations ++ [last])).isPending name = true) :
    WaitsSince (operations ++ [last]) name start := by
  have inside := since.lt
  constructor
  · rw [List.getElem?_append_left inside]
    exact since.added
  · rw [List.take_append_of_le_length (Nat.le_of_lt inside)]
    exact since.fresh
  · intro moment afterStart atMost
    rw [List.length_append, List.length_singleton] at atMost
    rcases Nat.lt_or_eq_of_le atMost with earlier | isNow
    · have within := Nat.le_of_lt_succ earlier
      rw [List.take_append_of_le_length within]
      exact since.ever moment afterStart within
    · rw [isNow, List.take_of_length_le (by simp)]
      exact waits

theorem waitsSince_last {origin : Origin} (notWaiting : name ∉ (after operations).waiting)
    (waits : (after (operations ++ [.add name origin])).isPending name = true) :
    WaitsSince (operations ++ [.add name origin]) name operations.length := by
  constructor
  · exact ⟨origin, by simp⟩
  · rw [List.take_left', Bool.eq_false_iff]
    · exact mt isPending_iff.mp notWaiting
    · rfl
  · intro moment afterStart atMost
    have whole : (operations ++ [Operation.add name origin]).length ≤ moment := by
      rw [List.length_append]
      exact afterStart
    rw [List.take_of_length_le whole]
    exact waits

theorem askedSince_concat (within : start ≤ operations.length) :
    AskedSince (operations ++ [last]) name start ↔
      AskedSince operations name start ∨ last = .add name .seed := by
  constructor
  · intro asked
    rcases asked with ⟨moment, since, added⟩
    rcases Nat.lt_or_ge moment operations.length with early | late
    · rw [List.getElem?_append_left early] at added
      exact Or.inl ⟨moment, since, added⟩
    · rw [List.getElem?_append_right late] at added
      exact Or.inr (List.mem_singleton.mp (List.mem_of_getElem? added)).symm
  · intro either
    rcases either with ⟨moment, since, added⟩ | rfl
    · have inside := (List.getElem?_eq_some_iff.mp added).1
      exact ⟨moment, since, (List.getElem?_append_left inside).trans added⟩
    · exact ⟨operations.length, within, by simp⟩

/-!
# All operations
-/

def WaitsLonger (operations : List Operation) (name other : ClassName) : Prop :=
  ∃ start later, WaitsSince operations name start ∧ WaitsSince operations other later ∧
    start < later

/-- What waits stands in the order in which it came to wait, each as what it was asked for since. -/
structure InOrder (operations : List Operation) : Prop where
  wellFormed : (after operations).WellFormed
  since : ∀ item ∈ (after operations).pending, ∃ start, WaitsSince operations item.1 start ∧
    (item.2 = .seed ↔ AskedSince operations item.1 start)
  longer : (after operations).waiting.Pairwise (WaitsLonger operations)

theorem InOrder.exists_since (inOrder : InOrder operations)
    (waits : name ∈ (after operations).waiting) : ∃ start, WaitsSince operations name start := by
  rcases List.mem_map.mp waits with ⟨item, mem, rfl⟩
  rcases inOrder.since item mem with ⟨start, since, _⟩
  exact ⟨start, since⟩

theorem WaitsLonger.concat (longer : WaitsLonger operations name other)
    (waits : name ∈ (after (operations ++ [last])).waiting)
    (otherWaits : other ∈ (after (operations ++ [last])).waiting) :
    WaitsLonger (operations ++ [last]) name other := by
  rcases longer with ⟨start, later, since, otherSince, before⟩
  exact ⟨start, later, since.concat (isPending_iff.mpr waits),
    otherSince.concat (isPending_iff.mpr otherWaits), before⟩

/-- Names that wait before and after the last operation keep their order. -/
theorem InOrder.longer_concat (inOrder : InOrder operations) {names : List ClassName}
    (old : names.Sublist (after operations).waiting)
    (remain : names.Sublist (after (operations ++ [last])).waiting) :
    names.Pairwise (WaitsLonger (operations ++ [last])) := by
  refine (inOrder.longer.sublist old).imp_of_mem fun mem otherMem longer => ?_
  exact longer.concat (remain.subset mem) (remain.subset otherMem)

theorem InOrder.concat (inOrder : InOrder operations) (last : Operation) :
    InOrder (operations ++ [last]) := by
  have step := after_concat operations last
  constructor
  · rw [step]
    exact inOrder.wellFormed.apply last
  · intro item mem
    have waits := isPending_iff.mpr (List.mem_map_of_mem mem)
    rw [step] at mem
    rcases mem_pending_apply inOrder.wellFormed mem with ⟨origin, old, seed_iff⟩ | ⟨fresh, added⟩
    · rcases inOrder.since _ old with ⟨start, since, asked_iff⟩
      refine ⟨start, since.concat waits, ?_⟩
      rw [askedSince_concat (Nat.le_of_lt since.lt), seed_iff, asked_iff]
    · subst added
      refine ⟨operations.length, waitsSince_last fresh waits, ?_⟩
      have notYet : ¬AskedSince operations item.1 operations.length := by
        intro asked
        rcases asked with ⟨moment, late, added⟩
        have inside := (List.getElem?_eq_some_iff.mp added).1
        omega
      rw [askedSince_concat (Nat.le_refl _)]
      simp [notYet]
  · rcases waiting_apply (after operations) last with kept | ⟨name, origin, rfl, fresh, appended⟩
    · rw [← step] at kept
      exact inOrder.longer_concat kept (List.Sublist.refl _)
    · rw [← step] at appended
      have remain : (after operations).waiting.Sublist
          (after (operations ++ [.add name origin])).waiting :=
        appended ▸ List.sublist_append_left _ _
      have waits : name ∈ (after (operations ++ [.add name origin])).waiting :=
        appended ▸ List.mem_append_right _ List.mem_cons_self
      have since := waitsSince_last fresh (isPending_iff.mpr waits)
      rw [appended, List.pairwise_append]
      refine ⟨inOrder.longer_concat (List.Sublist.refl _) remain, List.pairwise_singleton _ _, ?_⟩
      intro other old one isName
      rw [List.mem_singleton.mp isName]
      rcases inOrder.exists_since old with ⟨start, otherSince⟩
      exact ⟨start, operations.length,
        otherSince.concat (isPending_iff.mpr (remain.subset old)), since, otherSince.lt⟩

theorem inOrder_after (operations : List Operation) : InOrder operations := by
  induction operations using List.reverseRecOn with
  | nil =>
      exact ⟨wellFormed_empty, fun _ mem => absurd mem List.not_mem_nil, List.Pairwise.nil⟩
  | append_singleton operations last ih => exact ih.concat last

/-!
# Names that are done
-/

theorem done_subset_apply (agenda : Agenda) (notCleared : last ≠ .clear) :
    agenda.done ⊆ (agenda.apply last).done := by
  cases last with
  | add name origin =>
      show agenda.done ⊆ (agenda.add name origin).2.done
      rw [done_add]
      exact List.Subset.refl _
  | pop =>
      rcases agenda.apply_pop_cases with ⟨_, same⟩ | ⟨oldest, popped⟩
      · rw [same]
        exact List.Subset.refl _
      · rw [(pop?_eq_some_iff.mp popped).right]
        exact List.Subset.refl _
  | markDone name => exact fun other isDone => mem_done_markDone.mpr (Or.inl isDone)
  | clear => exact absurd rfl notCleared

theorem done_subset_after {more : List Operation} (notCleared : .clear ∉ more) :
    (after operations).done ⊆ (after (operations ++ more)).done := by
  induction more using List.reverseRecOn with
  | nil =>
      rw [List.append_nil]
      exact List.Subset.refl _
  | append_singleton more last ih =>
      rw [List.mem_append, List.mem_singleton, not_or] at notCleared
      rw [← List.append_assoc, after_concat]
      exact List.Subset.trans (ih notCleared.left) (done_subset_apply _ (Ne.symm notCleared.right))

theorem done_of_marked {more : List Operation} (name : ClassName) (notCleared : .clear ∉ more) :
    name ∈ (after (operations ++ .markDone name :: more)).done := by
  have marked : name ∈ (after (operations ++ [.markDone name])).done := by
    rw [after_concat]
    exact mem_done_markDone.mpr (Or.inr rfl)
  rw [← List.singleton_append, ← List.append_assoc]
  exact done_subset_after notCleared marked

/-!
# Working off an agenda
-/

theorem waiting_add_of_mem {agenda : Agenda} (origin : Origin) (waits : name ∈ agenda.waiting) :
    (agenda.add name origin).2.waiting = agenda.waiting := by
  rcases agenda.add_eq name origin with ⟨_, same⟩ | ⟨_, _, same⟩ | ⟨_, notWaiting, _⟩
  · rw [same]
  · rw [same]
    exact waiting_map_upgrade name origin agenda.pending
  · exact absurd waits notWaiting

theorem pop?_eq_none_iff_isPending {agenda : Agenda} :
    agenda.pop? = none ↔ ∀ name, agenda.isPending name = false := by
  rw [pop?_eq_none_iff]
  constructor
  · intro nothing name
    rw [isPending, nothing]
    rfl
  · intro quiet
    cases pending : agenda.pending with
    | nil => rfl
    | cons oldest rest =>
        have waits := quiet oldest.1
        rw [isPending, pending] at waits
        simp at waits

/-- The name taken has waited longest, and as a seed if it was added as one meanwhile. -/
theorem InOrder.of_pop? (inOrder : InOrder operations) {origin : Origin} {rest : Agenda}
    (popped : (after operations).pop? = some ((name, origin), rest)) :
    ∃ start, WaitsSince operations name start ∧
      (∀ other later, WaitsSince operations other later → other = name ∨ start < later) ∧
      (origin = .seed ↔ AskedSince operations name start) := by
  have front := waiting_of_pop? popped
  have isPending : (name, origin) ∈ (after operations).pending := by
    rw [(pop?_eq_some_iff.mp popped).left]
    exact List.mem_cons_self
  rcases inOrder.since _ isPending with ⟨start, since, asked_iff⟩
  refine ⟨start, since, fun other later otherSince => ?_, asked_iff⟩
  have longer := inOrder.longer
  rw [front, List.pairwise_cons] at longer
  have waits := isPending_iff.mp otherSince.isPending
  rw [front] at waits
  rcases List.mem_cons.mp waits with isName | behind
  · exact Or.inl isName
  · rcases longer.left other behind with ⟨first, second, firstSince, secondSince, before⟩
    rw [since.unique firstSince, otherSince.unique secondSince]
    exact Or.inr before

theorem rest_of_pop? {origin : Origin} {rest : Agenda}
    (popped : (after operations).pop? = some ((name, origin), rest)) :
    rest = after (operations ++ [.pop]) := by
  rw [after_concat, apply, popped]

/-- After any operations no name waits and is done. A name comes to wait by being added, unless it
is done, and adding one that waits moves none and leaves each seed a seed. The name taken is the
one that has waited longest, as a seed exactly if it was added as one since it waits, and waits no
more; none is taken only if none waits. A name marked as done neither waits nor is taken until the
agenda is cleared. -/
theorem longest_waiting_first (operations : List Operation) :
    (∀ name, ¬((after operations).isPending name = true ∧ (after operations).isDone name = true)) ∧
    (∀ name origin,
      (((after operations).add name origin).1 = true ↔ (after operations).isDone name = false) ∧
      (((after operations).add name origin).1 = true →
        (after (operations ++ [.add name origin])).isPending name = true) ∧
      ((after operations).isPending name = true →
        (after (operations ++ [.add name origin])).waiting = (after operations).waiting) ∧
      ∀ other, (other, Origin.seed) ∈ (after operations).pending →
        (other, Origin.seed) ∈ (after (operations ++ [.add name origin])).pending) ∧
    (∀ name, (after operations).isPending name = true ↔
      ∃ start, WaitsSince operations name start) ∧
    ((after operations).pop? = none ↔ ∀ name, (after operations).isPending name = false) ∧
    (∀ name origin rest, (after operations).pop? = some ((name, origin), rest) →
      (∃ start, WaitsSince operations name start ∧
        (∀ other later, WaitsSince operations other later → other = name ∨ start < later) ∧
        (origin = .seed ↔ AskedSince operations name start)) ∧
      rest = after (operations ++ [.pop]) ∧ rest.isPending name = false) ∧
    ∀ name more, .clear ∉ more →
      (after (operations ++ .markDone name :: more)).isPending name = false ∧
      ∀ origin rest,
        (after (operations ++ .markDone name :: more)).pop? ≠ some ((name, origin), rest) := by
  have inOrder := inOrder_after operations
  have waits_iff : ∀ name, (after operations).isPending name = true ↔
      ∃ start, WaitsSince operations name start := by
    intro name
    constructor
    · exact fun waits => inOrder.exists_since (isPending_iff.mp waits)
    · exact fun since => since.elim fun _ since => since.isPending
  refine ⟨?_, ?_, waits_iff, pop?_eq_none_iff_isPending, ?_, ?_⟩
  · intro name both
    exact inOrder.wellFormed.fresh name (isPending_iff.mp both.left) (isDone_iff.mp both.right)
  · intro name origin
    have step := after_concat operations (.add name origin)
    refine ⟨?_, ?_, ?_, ?_⟩
    · rw [fst_add_iff, ← Bool.not_eq_true, isDone_iff]
    · intro answer
      rw [step, isPending_iff]
      exact mem_waiting_add.mpr (Or.inr ⟨rfl, (fst_add_iff _ _ _).mp answer⟩)
    · intro waits
      rw [step]
      exact waiting_add_of_mem origin (isPending_iff.mp waits)
    · intro other isSeed
      rw [step]
      exact mem_requests_add.mpr (Or.inl isSeed)
  · intro name origin rest popped
    have gone := (wellFormed_pop? popped inOrder.wellFormed).right.left
    refine ⟨inOrder.of_pop? popped, rest_of_pop? popped, ?_⟩
    rw [Bool.eq_false_iff]
    exact mt isPending_iff.mp gone
  · intro name more notCleared
    have laterOrder := inOrder_after (operations ++ .markDone name :: more)
    have notWaiting : name ∉ (after (operations ++ .markDone name :: more)).waiting :=
      fun waits => laterOrder.wellFormed.fresh name waits (done_of_marked name notCleared)
    refine ⟨Bool.eq_false_iff.mpr (mt isPending_iff.mp notWaiting), fun origin rest popped => ?_⟩
    exact notWaiting (waiting_of_pop? popped ▸ List.mem_cons_self)

def askedAgain : List Operation :=
  [.add ⟨"a.B"⟩ .seed, .pop, .add ⟨"a.C"⟩ .reference, .add ⟨"a.B"⟩ .reference,
    .add ⟨"a.C"⟩ .seed]

theorem longest_waiting_first_askedAgain :
    (after askedAgain).pop? = some ((⟨"a.C"⟩, .seed), ⟨[(⟨"a.B"⟩, .reference)], []⟩) ∧
    (∃ start, WaitsSince askedAgain ⟨"a.C"⟩ start ∧
      (∀ other later, WaitsSince askedAgain other later → other = ⟨"a.C"⟩ ∨ start < later) ∧
      AskedSince askedAgain ⟨"a.C"⟩ start) ∧
    .clear ∉ [Operation.add ⟨"a.C"⟩ .seed] ∧
    (after (askedAgain ++ [.markDone ⟨"a.C"⟩, .add ⟨"a.C"⟩ .seed])).isPending ⟨"a.C"⟩ = false := by
  rcases longest_waiting_first askedAgain with ⟨_, _, _, _, taken, marked⟩
  have popped : (after askedAgain).pop? =
      some ((⟨"a.C"⟩, .seed), ⟨[(⟨"a.B"⟩, .reference)], []⟩) := by decide
  have notCleared : .clear ∉ [Operation.add ⟨"a.C"⟩ .seed] := by simp
  rcases taken _ _ _ popped with ⟨⟨start, since, earliest, asked_iff⟩, _⟩
  exact ⟨popped, ⟨start, since, earliest, asked_iff.mp rfl⟩, notCleared,
    (marked _ _ notCleared).left⟩

end Agenda
end ClassAtlas
