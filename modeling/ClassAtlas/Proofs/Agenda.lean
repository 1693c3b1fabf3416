import Mathlib.Data.List.Nodup
import ClassAtlas.Agenda

/-!
# How an agenda changes

The names that wait and the names that are done, after each operation. A name
waits at most once and never after it is done. No operation forgets a name.
-/

namespace ClassAtlas

namespace Agenda

def waiting (agenda : Agenda) : List ClassName :=
  agenda.pending.map Prod.fst

def Knows (agenda : Agenda) (name : ClassName) : Prop :=
  name ∈ agenda.done ∨ name ∈ agenda.waiting

structure WellFormed (agenda : Agenda) : Prop where
  waiting_nodup : agenda.waiting.Nodup
  done_nodup : agenda.done.Nodup
  fresh : ∀ name ∈ agenda.waiting, name ∉ agenda.done

theorem wellFormed_empty : empty.WellFormed where
  waiting_nodup := List.nodup_nil
  done_nodup := List.nodup_nil
  fresh _ waits := absurd waits List.not_mem_nil

theorem isPending_iff {agenda : Agenda} {name : ClassName} :
    agenda.isPending name = true ↔ name ∈ agenda.waiting := by
  simp [isPending, waiting]

theorem isDone_iff {agenda : Agenda} {name : ClassName} :
    agenda.isDone name = true ↔ name ∈ agenda.done := by
  simp [isDone]

/-!
# Adding
-/

theorem waiting_map_upgrade (name : ClassName) (origin : Origin)
    (pending : List (ClassName × Origin)) :
    (pending.map (upgrade name origin)).map Prod.fst = pending.map Prod.fst := by
  rw [List.map_map]
  exact List.map_congr_left fun item _ => fst_upgrade name origin item

theorem add_eq (agenda : Agenda) (name : ClassName) (origin : Origin) :
    (name ∈ agenda.done ∧ agenda.add name origin = (false, agenda)) ∨
    (name ∉ agenda.done ∧ name ∈ agenda.waiting ∧ agenda.add name origin =
      (true, { agenda with pending := agenda.pending.map (upgrade name origin) })) ∨
    (name ∉ agenda.done ∧ name ∉ agenda.waiting ∧ agenda.add name origin =
      (true, { agenda with pending := agenda.pending ++ [(name, origin)] })) := by
  unfold add
  by_cases isDone : name ∈ agenda.done
  · exact Or.inl ⟨isDone, if_pos (isDone_iff.mpr isDone)⟩
  · rw [if_neg (mt isDone_iff.mp isDone)]
    by_cases waits : name ∈ agenda.waiting
    · exact Or.inr (Or.inl ⟨isDone, waits, if_pos (isPending_iff.mpr waits)⟩)
    · exact Or.inr (Or.inr ⟨isDone, waits, if_neg (mt isPending_iff.mp waits)⟩)

theorem done_add (agenda : Agenda) (name : ClassName) (origin : Origin) :
    (agenda.add name origin).2.done = agenda.done := by
  rcases agenda.add_eq name origin with ⟨_, same⟩ | ⟨_, _, same⟩ | ⟨_, _, same⟩ <;> rw [same]

theorem fst_add_iff (agenda : Agenda) (name : ClassName) (origin : Origin) :
    (agenda.add name origin).1 = true ↔ name ∉ agenda.done := by
  rcases agenda.add_eq name origin with ⟨isDone, same⟩ | ⟨fresh, _, same⟩ | ⟨fresh, _, same⟩ <;>
    rw [same]
  · simp [isDone]
  · simp [fresh]
  · simp [fresh]

theorem mem_waiting_add {agenda : Agenda} {name other : ClassName} {origin : Origin} :
    other ∈ (agenda.add name origin).2.waiting ↔
      other ∈ agenda.waiting ∨ (other = name ∧ name ∉ agenda.done) := by
  rcases agenda.add_eq name origin with ⟨isDone, same⟩ | ⟨_, waits, same⟩ | ⟨fresh, _, same⟩ <;>
    rw [same]
  · simp [isDone]
  · rw [waiting, waiting_map_upgrade]
    constructor
    · exact Or.inl
    · intro either
      rcases either with old | ⟨rfl, _⟩
      · exact old
      · exact waits
  · simp [waiting, fresh]

theorem knows_add {agenda : Agenda} {name other : ClassName} {origin : Origin} :
    (agenda.add name origin).2.Knows other ↔ agenda.Knows other ∨ other = name := by
  unfold Knows
  rw [done_add, mem_waiting_add]
  constructor
  · intro known
    rcases known with isDone | waits | ⟨isName, _⟩
    · exact Or.inl (Or.inl isDone)
    · exact Or.inl (Or.inr waits)
    · exact Or.inr isName
  · intro known
    by_cases isDone : other ∈ agenda.done
    · exact Or.inl isDone
    · rcases known with (old | waits) | rfl
      · exact absurd old isDone
      · exact Or.inr (Or.inl waits)
      · exact Or.inr (Or.inr ⟨rfl, isDone⟩)

theorem wellFormed_add {agenda : Agenda} (wellFormed : agenda.WellFormed) (name : ClassName)
    (origin : Origin) : (agenda.add name origin).2.WellFormed := by
  rcases agenda.add_eq name origin with
    ⟨_, same⟩ | ⟨_, _, same⟩ | ⟨fresh, notWaiting, same⟩ <;> rw [same]
  · exact wellFormed
  · have names := waiting_map_upgrade name origin agenda.pending
    constructor
    · rw [waiting, names]
      exact wellFormed.waiting_nodup
    · exact wellFormed.done_nodup
    · rw [waiting, names]
      exact wellFormed.fresh
  · have names : ({ agenda with pending := agenda.pending ++ [(name, origin)] } :
        Agenda).waiting = agenda.waiting ++ [name] := by
      simp [waiting]
    constructor
    · rw [names, ← List.concat_eq_append]
      exact wellFormed.waiting_nodup.concat notWaiting
    · exact wellFormed.done_nodup
    · rw [names]
      intro other waits
      rcases List.mem_append.mp waits with old | isNew
      · exact wellFormed.fresh other old
      · rw [List.mem_singleton.mp isNew]
        exact fresh

theorem mem_requests_add {agenda : Agenda} {name other : ClassName} {origin : Origin} :
    (other, Origin.seed) ∈ (agenda.add name origin).2.pending ↔
      (other, Origin.seed) ∈ agenda.pending ∨
        (other = name ∧ origin = .seed ∧ name ∉ agenda.done) := by
  rcases agenda.add_eq name origin with
    ⟨isDone, same⟩ | ⟨fresh, waits, same⟩ | ⟨fresh, _, same⟩ <;> rw [same]
  · simp [isDone]
  · show (other, Origin.seed) ∈ agenda.pending.map (upgrade name origin) ↔ _
    rw [List.mem_map]
    constructor
    · intro upgradedTo
      rcases upgradedTo with ⟨item, mem, upgraded⟩
      unfold upgrade at upgraded
      split at upgraded
      · next both =>
          rw [Bool.and_eq_true, decide_eq_true_iff, decide_eq_true_iff] at both
          rw [both.left] at upgraded
          exact Or.inr ⟨(Prod.mk.inj upgraded).left.symm, both.right, fresh⟩
      · exact Or.inl (upgraded ▸ mem)
    · intro either
      rcases either with old | ⟨rfl, rfl, _⟩
      · refine ⟨(other, .seed), old, ?_⟩
        unfold upgrade
        split <;> rfl
      · rcases List.mem_map.mp waits with ⟨⟨_, known⟩, mem, rfl⟩
        exact ⟨(_, known), mem, by simp [upgrade]⟩
  · simp [fresh, eq_comm]

/-!
# Adding references
-/

theorem done_addReferences (agenda : Agenda) (names : List ClassName) :
    (agenda.addReferences names).done = agenda.done := by
  induction names generalizing agenda with
  | nil => rfl
  | cons first rest ih =>
      have later := ih (agenda.add first .reference).2
      rw [done_add] at later
      exact later

theorem knows_addReferences {agenda : Agenda} {names : List ClassName} {other : ClassName} :
    (agenda.addReferences names).Knows other ↔ agenda.Knows other ∨ other ∈ names := by
  induction names generalizing agenda with
  | nil => simp [addReferences]
  | cons first rest ih =>
      have later := @ih (agenda.add first .reference).2
      rw [knows_add, or_assoc, ← List.mem_cons] at later
      exact later

theorem wellFormed_addReferences {agenda : Agenda} (wellFormed : agenda.WellFormed)
    (names : List ClassName) : (agenda.addReferences names).WellFormed := by
  induction names generalizing agenda with
  | nil => exact wellFormed
  | cons first rest ih => exact ih (wellFormed_add wellFormed first .reference)

theorem mem_requests_addReferences {agenda : Agenda} {name : ClassName}
    {names : List ClassName} :
    (name, Origin.seed) ∈ (agenda.addReferences names).pending ↔
      (name, Origin.seed) ∈ agenda.pending := by
  induction names generalizing agenda with
  | nil => rfl
  | cons first rest ih =>
      have later := @ih (agenda.add first .reference).2
      rw [mem_requests_add] at later
      refine later.trans ?_
      constructor
      · intro either
        rcases either with old | ⟨_, impossible, _⟩
        · exact old
        · cases impossible
      · exact Or.inl

/-!
# Taking the oldest name and marking a name done
-/

theorem pop?_eq_some_iff {agenda rest : Agenda} {item : ClassName × Origin} :
    agenda.pop? = some (item, rest) ↔
      agenda.pending = item :: rest.pending ∧ agenda.done = rest.done := by
  unfold pop?
  split
  · next nothing => simp [nothing]
  · next oldest others pending =>
      rw [pending, Option.some.injEq, Prod.mk.injEq, List.cons.injEq]
      constructor
      · intro same
        rcases same with ⟨rfl, rfl⟩
        exact ⟨⟨rfl, rfl⟩, rfl⟩
      · intro same
        rcases same with ⟨⟨rfl, rfl⟩, sameDone⟩
        rw [sameDone]
        exact ⟨rfl, rfl⟩

theorem pop?_eq_none_iff {agenda : Agenda} : agenda.pop? = none ↔ agenda.pending = [] := by
  unfold pop?
  split
  · next nothing => simp [nothing]
  · next oldest others pending => simp [pending]

theorem waiting_of_pop? {agenda rest : Agenda} {item : ClassName × Origin}
    (popped : agenda.pop? = some (item, rest)) : agenda.waiting = item.1 :: rest.waiting := by
  rw [waiting, (pop?_eq_some_iff.mp popped).left]
  rfl

theorem knows_of_pop? {agenda rest : Agenda} {item : ClassName × Origin}
    (popped : agenda.pop? = some (item, rest)) {name : ClassName} :
    agenda.Knows name ↔ name = item.1 ∨ rest.Knows name := by
  unfold Knows
  rw [waiting_of_pop? popped, (pop?_eq_some_iff.mp popped).right, List.mem_cons]
  exact or_left_comm

theorem wellFormed_pop? {agenda rest : Agenda} {item : ClassName × Origin}
    (popped : agenda.pop? = some (item, rest)) (wellFormed : agenda.WellFormed) :
    rest.WellFormed ∧ item.1 ∉ rest.waiting ∧ item.1 ∉ rest.done := by
  have done := (pop?_eq_some_iff.mp popped).right
  have names := waiting_of_pop? popped
  have unique := wellFormed.waiting_nodup
  rw [names, List.nodup_cons] at unique
  refine ⟨⟨unique.right, done ▸ wellFormed.done_nodup, ?_⟩, unique.left, ?_⟩
  · intro name waits
    rw [← done]
    exact wellFormed.fresh name (names ▸ List.mem_cons_of_mem _ waits)
  · rw [← done]
    exact wellFormed.fresh item.1 (names ▸ List.mem_cons_self)

theorem mem_done_markDone {agenda : Agenda} {name other : ClassName} :
    other ∈ (agenda.markDone name).done ↔ other ∈ agenda.done ∨ other = name := by
  unfold markDone
  split
  · next already =>
      constructor
      · exact Or.inl
      · intro either
        rcases either with old | rfl
        · exact old
        · exact already
  · simp

theorem pending_markDone_of_not_mem {agenda : Agenda} {name : ClassName}
    (notWaiting : name ∉ agenda.waiting) : (agenda.markDone name).pending = agenda.pending := by
  unfold markDone
  rw [List.filter_eq_self]
  intro item mem
  have different : item.1 ≠ name := fun same => notWaiting (same ▸ List.mem_map_of_mem mem)
  exact decide_eq_true different

theorem waiting_markDone (agenda : Agenda) (name : ClassName) :
    (agenda.markDone name).waiting = agenda.waiting.filter fun other => other ≠ name := by
  rw [waiting, waiting, List.filter_map]
  rfl

theorem mem_waiting_markDone {agenda : Agenda} {name other : ClassName} :
    other ∈ (agenda.markDone name).waiting ↔ other ∈ agenda.waiting ∧ other ≠ name := by
  rw [waiting_markDone, List.mem_filter, decide_eq_true_eq]

theorem knows_markDone {agenda : Agenda} {name other : ClassName} :
    (agenda.markDone name).Knows other ↔ other = name ∨ agenda.Knows other := by
  unfold Knows
  rw [mem_done_markDone, mem_waiting_markDone]
  by_cases isName : other = name
  · simp [isName]
  · simp [isName]

theorem wellFormed_markDone {agenda : Agenda} (wellFormed : agenda.WellFormed)
    (name : ClassName) : (agenda.markDone name).WellFormed := by
  constructor
  · rw [waiting_markDone]
    exact wellFormed.waiting_nodup.filter _
  · unfold markDone
    split
    · exact wellFormed.done_nodup
    · next fresh => exact List.concat_eq_append ▸ wellFormed.done_nodup.concat fresh
  · intro other waits isDone
    rcases mem_waiting_markDone.mp waits with ⟨waited, notName⟩
    rcases mem_done_markDone.mp isDone with old | isName
    · exact wellFormed.fresh other waited old
    · exact notName isName

end Agenda
end ClassAtlas
