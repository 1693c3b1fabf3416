import ClassAtlas.ClassName.Basic

/-!
# The agenda of a run

Names that wait to be processed, oldest first, and names that are done. A name
is never both. Asking for a waiting name again does not move it, but a request
outranks a reference.
-/

namespace ClassAtlas

inductive Origin where
  /-- It was asked for and must exist. -/
  | seed
  | reference
deriving DecidableEq

structure Agenda where
  pending : List (ClassName × Origin)
  done : List ClassName
deriving DecidableEq

namespace Agenda

def empty : Agenda :=
  ⟨[], []⟩

def isPending (agenda : Agenda) (name : ClassName) : Bool :=
  agenda.pending.any fun item => item.1 = name

def isDone (agenda : Agenda) (name : ClassName) : Bool :=
  name ∈ agenda.done

def isDrained (agenda : Agenda) : Bool :=
  agenda.pending.isEmpty

def upgrade (name : ClassName) (origin : Origin) (item : ClassName × Origin) :
    ClassName × Origin :=
  if item.1 = name && origin = .seed then (item.1, .seed) else item

theorem fst_upgrade (name : ClassName) (origin : Origin) (item : ClassName × Origin) :
    (upgrade name origin item).1 = item.1 := by
  unfold upgrade
  split <;> rfl

theorem snd_upgrade_eq_seed_iff {name : ClassName} {origin : Origin}
    {item : ClassName × Origin} :
    (upgrade name origin item).2 = .seed ↔ item.2 = .seed ∨ name = item.1 ∧ origin = .seed := by
  unfold upgrade
  split
  · next upgraded =>
      rw [Bool.and_eq_true, decide_eq_true_iff, decide_eq_true_iff] at upgraded
      exact iff_of_true rfl (Or.inr ⟨upgraded.left.symm, upgraded.right⟩)
  · next kept =>
      rw [Bool.and_eq_true, decide_eq_true_iff, decide_eq_true_iff] at kept
      exact (or_iff_left fun both => kept ⟨both.left.symm, both.right⟩).symm

/-- Puts a name on the agenda unless it is done, and says whether it waits now. -/
def add (agenda : Agenda) (name : ClassName) (origin : Origin) : Bool × Agenda :=
  if agenda.isDone name then (false, agenda)
  else if agenda.isPending name then
    (true, { agenda with pending := agenda.pending.map (upgrade name origin) })
  else (true, { agenda with pending := agenda.pending ++ [(name, origin)] })

def pop? (agenda : Agenda) : Option ((ClassName × Origin) × Agenda) :=
  match agenda.pending with
  | [] => none
  | oldest :: rest => some (oldest, { agenda with pending := rest })

def markDone (agenda : Agenda) (name : ClassName) : Agenda where
  pending := agenda.pending.filter fun item => item.1 ≠ name
  done := if name ∈ agenda.done then agenda.done else agenda.done ++ [name]

def addReferences (agenda : Agenda) (names : List ClassName) : Agenda :=
  names.foldl (fun current name => (current.add name .reference).2) agenda

end Agenda
end ClassAtlas
