import Mathlib.Data.List.Basic
import Mathlib.Data.List.Nodup
import ClassAtlas.Grouping

/-!
# Groups are a partition

The groups of a list hold each of its members once: put one after another they are the
list in another order. Sorting the groups does not change that, and groups of equal rank
stay in the order in which their keys first occur. The first group can be taken off, and
what is left are the groups of the members with other keys.
-/

namespace ClassAtlas

theorem distinct_filter [DecidableEq α] (keeps : α → Bool) (items : List α) :
    distinct (items.filter keeps) = (distinct items).filter keeps := by
  induction items with
  | nil => rfl
  | cons first rest ih =>
      rw [distinct, List.filter_cons, List.filter_cons]
      split
      · rw [distinct, ih, List.filter_filter, List.filter_filter]
        simp only [Bool.and_comm]
      · next dropped =>
          rw [ih, List.filter_filter]
          apply List.filter_congr
          intro other _
          by_cases same : other = first
          · simp [same, dropped]
          · simp [same]

/-- The members with each of some keys, where no key is repeated and none is left out. -/
theorem flatMap_filter_perm [DecidableEq κ] {key : α → κ} {keys : List κ} (nodup : keys.Nodup)
    {items : List α} (covered : ∀ item ∈ items, key item ∈ keys) :
    (keys.flatMap fun k => items.filter fun item => key item = k).Perm items := by
  induction keys generalizing items with
  | nil =>
      cases items with
      | nil => exact List.Perm.refl _
      | cons first rest => cases covered first List.mem_cons_self
  | cons k keys ih =>
      rcases List.nodup_cons.mp nodup with ⟨isNew, nodupRest⟩
      have others : ∀ item ∈ items.filter fun item => key item ≠ k, key item ∈ keys := by
        intro item mem
        rcases List.mem_filter.mp mem with ⟨inItems, different⟩
        rcases List.mem_cons.mp (covered item inItems) with same | later
        · exact absurd same (of_decide_eq_true different)
        · exact later
      have later : ∀ other ∈ keys, (items.filter fun item => key item = other) =
          (items.filter fun item => key item ≠ k).filter fun item => key item = other := by
        intro other mem
        rw [List.filter_filter]
        apply List.filter_congr
        intro item _
        by_cases same : key item = other
        · have different : other ≠ k := fun isFirst => isNew (isFirst ▸ mem)
          simp [same, different]
        · simp [same]
      have rest := ih nodupRest others
      rw [← List.flatMap_congr later] at rest
      have split := List.filter_append_perm (fun item => decide (key item = k)) items
      simp only [decide_not] at rest
      exact (rest.append_left _).trans split

theorem fst_grouped [DecidableEq κ] (key : α → κ) (items : List α) :
    (grouped key items).map Prod.fst = distinct (items.map key) := by
  rw [grouped, List.map_map]
  exact List.map_id _

theorem grouped_cons [DecidableEq κ] (key : α → κ) (first : α) (rest : List α) :
    grouped key (first :: rest) =
      (key first, first :: rest.filter fun item => key item = key first) ::
        grouped key (rest.filter fun item => key item ≠ key first) := by
  have others : distinct ((rest.filter fun item => key item ≠ key first).map key) =
      (distinct (rest.map key)).filter fun k => k ≠ key first := by
    rw [← distinct_filter, List.filter_map]
    rfl
  unfold grouped
  rw [List.map_cons, distinct, List.map_cons, others]
  congr 1
  · simp
  · apply List.map_congr_left
    intro k mem
    have different : k ≠ key first := of_decide_eq_true (List.mem_filter.mp mem).right
    have members : (rest.filter fun item => key item ≠ key first).filter
        (fun item => key item = k) = rest.filter fun item => key item = k := by
      rw [List.filter_filter]
      apply List.filter_congr
      intro item _
      by_cases same : key item = k
      · simp [same, different]
      · simp [same]
    rw [members, List.filter_cons_of_neg (by simp [Ne.symm different])]

theorem flatMap_grouped_perm [DecidableEq κ] (key : α → κ) (items : List α) :
    ((grouped key items).flatMap Prod.snd).Perm items := by
  rw [grouped, List.flatMap_map]
  apply flatMap_filter_perm (nodup_distinct _)
  intro item mem
  exact mem_distinct.mpr (List.mem_map_of_mem mem)

/-!
# The order of first occurrences
-/

theorem pairwise_idxOf_distinct [DecidableEq α] [BEq α] [LawfulBEq α] (items : List α) :
    (distinct items).Pairwise fun earlier later => items.idxOf earlier < items.idxOf later := by
  induction items with
  | nil => exact List.Pairwise.nil
  | cons first rest ih =>
      have behind : ∀ item, item ≠ first →
          (first :: rest).idxOf item = rest.idxOf item + 1 :=
        fun item different => List.idxOf_cons_ne rest (Ne.symm different)
      rw [distinct, List.pairwise_cons]
      constructor
      · intro later mem
        have different : later ≠ first := of_decide_eq_true (List.mem_filter.mp mem).right
        rw [List.idxOf_cons_self, behind later different]
        exact Nat.succ_pos _
      · refine (ih.filter _).imp_of_mem ?_
        intro earlier later memEarlier memLater before
        rw [behind earlier (of_decide_eq_true (List.mem_filter.mp memEarlier).right),
          behind later (of_decide_eq_true (List.mem_filter.mp memLater).right)]
        exact Nat.succ_lt_succ before

/-!
# Sorting is stable

What holds of earlier and later items still holds, after sorting, of items of equal rank.
-/

theorem pairwise_insertByRank {rank : α → Nat} {R : α → α → Prop} {item : α} {items : List α}
    (before : ∀ other ∈ items, R item other)
    (sorted : items.Pairwise fun earlier later =>
      rank earlier < rank later ∨ rank earlier = rank later ∧ R earlier later) :
    (insertByRank rank item items).Pairwise fun earlier later =>
      rank earlier < rank later ∨ rank earlier = rank later ∧ R earlier later := by
  induction items with
  | nil => exact List.pairwise_singleton _ _
  | cons first rest ih =>
      rcases List.pairwise_cons.mp sorted with ⟨firstBefore, sortedRest⟩
      have notLower : ∀ other ∈ rest, rank first ≤ rank other := by
        intro other mem
        rcases firstBefore other mem with lower | ⟨equal, _⟩
        · exact Nat.le_of_lt lower
        · exact Nat.le_of_eq equal
      rw [insertByRank]
      split
      · next least =>
          refine List.pairwise_cons.mpr ⟨?_, sorted⟩
          intro other mem
          have atLeast : rank item ≤ rank other := by
            rcases List.mem_cons.mp mem with rfl | inRest
            · exact least
            · exact Nat.le_trans least (notLower other inRest)
          exact (Nat.lt_or_eq_of_le atLeast).imp_right fun equal => ⟨equal, before other mem⟩
      · next lower =>
          have inRest := ih (fun other mem => before other (List.mem_cons_of_mem _ mem)) sortedRest
          refine List.pairwise_cons.mpr ⟨?_, inRest⟩
          intro other mem
          rcases List.mem_cons.mp ((insertByRank_perm rank item rest).mem_iff.mp mem) with
            rfl | later
          · exact Or.inl (Nat.lt_of_not_le lower)
          · exact firstBefore other later

/-- Items come by rank, and those of equal rank as they came before. -/
theorem pairwise_sortByRank {rank : α → Nat} {R : α → α → Prop} {items : List α}
    (pairwise : items.Pairwise R) :
    (sortByRank rank items).Pairwise fun earlier later =>
      rank earlier < rank later ∨ rank earlier = rank later ∧ R earlier later := by
  induction items with
  | nil => exact List.Pairwise.nil
  | cons first rest ih =>
      rcases List.pairwise_cons.mp pairwise with ⟨before, inRest⟩
      refine pairwise_insertByRank ?_ (ih inRest)
      intro other mem
      exact before other ((sortByRank_perm rank rest).mem_iff.mp mem)

end ClassAtlas
