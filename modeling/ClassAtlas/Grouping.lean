/-!
# Grouping a list

The distinct values of a list in the order of their first occurrence, the
members of a list grouped by a key in that order, and a stable sort by a number.
-/

namespace ClassAtlas

def distinct [DecidableEq α] : List α → List α
  | [] => []
  | first :: rest => first :: (distinct rest).filter fun other => other ≠ first

theorem mem_distinct [DecidableEq α] {a : α} {items : List α} :
    a ∈ distinct items ↔ a ∈ items := by
  induction items with
  | nil => simp [distinct]
  | cons first rest ih =>
      by_cases same : a = first
      · simp [distinct, same]
      · simp [distinct, same, ih]

theorem nodup_distinct [DecidableEq α] (items : List α) : (distinct items).Nodup := by
  induction items with
  | nil => simp [distinct]
  | cons first rest ih =>
      rw [distinct, List.nodup_cons]
      exact ⟨by simp, ih.filter _⟩

/-- The keys of a list in first-occurrence order, each with the members that have it. -/
def grouped [DecidableEq κ] (key : α → κ) (items : List α) : List (κ × List α) :=
  (distinct (items.map key)).map fun k => (k, items.filter fun item => key item = k)

/-!
# Sorting by a number

Insertion keeps items of equal rank in their order.
-/

def insertByRank (rank : α → Nat) (item : α) : List α → List α
  | [] => [item]
  | first :: rest =>
      if rank item ≤ rank first then item :: first :: rest
      else first :: insertByRank rank item rest

def sortByRank (rank : α → Nat) : List α → List α
  | [] => []
  | first :: rest => insertByRank rank first (sortByRank rank rest)

theorem insertByRank_perm (rank : α → Nat) (item : α) (items : List α) :
    (insertByRank rank item items).Perm (item :: items) := by
  induction items with
  | nil => exact List.Perm.refl _
  | cons first rest ih =>
      rw [insertByRank]
      split
      · exact List.Perm.refl _
      · exact (ih.cons first).trans (List.Perm.swap item first rest)

theorem sortByRank_perm (rank : α → Nat) (items : List α) :
    (sortByRank rank items).Perm items := by
  induction items with
  | nil => exact List.Perm.refl _
  | cons first rest ih =>
      exact (insertByRank_perm rank first _).trans (ih.cons first)

end ClassAtlas
