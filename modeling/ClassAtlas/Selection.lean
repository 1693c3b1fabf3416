/-!
# Selecting from a list

What a test, a key or a search selects from a list. These facts keep what is proved about
agendas, entries and class paths from being proved again for each of their lists.
-/

namespace ClassAtlas

theorem length_filter_lt_of_mem {items : List α} {few many : α → Bool}
    (imp : ∀ item ∈ items, few item = true → many item = true) {item : α}
    (mem : item ∈ items) (inMany : many item = true) (notFew : few item = false) :
    (items.filter few).length < (items.filter many).length := by
  have again : (items.filter many).filter few = items.filter few := by
    rw [List.filter_filter]
    apply List.filter_congr
    intro other inItems
    cases isFew : few other with
    | false => rfl
    | true => rw [imp other inItems isFew, Bool.and_self]
  rw [← again, List.length_filter_lt_length_iff_exists]
  exact ⟨item, List.mem_filter.mpr ⟨mem, inMany⟩, by simp [notFew]⟩

/-- Where items have keys of their own, a test that one of them passes selects more than
that one exactly if another passes it. -/
theorem one_lt_length_filter_iff {key : α → κ} {items : List α}
    (unique : (items.map key).Nodup) {test : α → Bool} {item : α} (mem : item ∈ items)
    (passes : test item = true) :
    1 < (items.filter test).length ↔
      ∃ other ∈ items, test other = true ∧ key other ≠ key item := by
  have kept : item ∈ items.filter test := List.mem_filter.mpr ⟨mem, passes⟩
  have uniqueKept : ((items.filter test).map key).Nodup :=
    unique.sublist (List.filter_sublist.map key)
  constructor
  · intro many
    match found : items.filter test with
    | [] => rw [found] at many; simp at many
    | [only] => rw [found] at many; simp at many
    | first :: second :: rest =>
        rw [found] at uniqueKept
        have differ : key first ≠ key second := by
          intro same
          rw [List.map_cons, List.map_cons, same] at uniqueKept
          exact (List.nodup_cons.mp uniqueKept).left List.mem_cons_self
        have inFirst : first ∈ items.filter test := by simp [found]
        have inSecond : second ∈ items.filter test := by simp [found]
        rcases List.mem_filter.mp inFirst with ⟨memFirst, passesFirst⟩
        rcases List.mem_filter.mp inSecond with ⟨memSecond, passesSecond⟩
        by_cases isFirst : key first = key item
        · exact ⟨second, memSecond, passesSecond, fun same => differ (isFirst.trans same.symm)⟩
        · exact ⟨first, memFirst, passesFirst, isFirst⟩
  · intro shared
    rcases shared with ⟨other, memOther, passesOther, different⟩
    have keptOther : other ∈ items.filter test := List.mem_filter.mpr ⟨memOther, passesOther⟩
    match found : items.filter test with
    | [] => rw [found] at kept; cases kept
    | [only] =>
        rw [found] at kept keptOther
        rw [List.mem_singleton.mp kept, List.mem_singleton.mp keptOther] at different
        exact absurd rfl different
    | first :: second :: rest => simp

theorem map_filterMap_of_section {keys : List κ} {choose : κ → Option α} {key : α → κ}
    (chosen : ∀ k ∈ keys, ∃ item, choose k = some item ∧ key item = k) :
    (keys.filterMap choose).map key = keys := by
  induction keys with
  | nil => rfl
  | cons k keys ih =>
      rcases chosen k List.mem_cons_self with ⟨item, isChosen, hasKey⟩
      rw [List.filterMap_cons_some isChosen, List.map_cons, hasKey,
        ih fun other mem => chosen other (List.mem_cons_of_mem _ mem)]

theorem findSome?_flatMap (f : β → Option γ) (parts : α → List β) (items : List α) :
    (items.flatMap parts).findSome? f = items.findSome? fun item => (parts item).findSome? f := by
  induction items with
  | nil => rfl
  | cons first rest ih =>
      rw [List.flatMap_cons, List.findSome?_append, ih, List.findSome?_cons]
      cases (parts first).findSome? f <;> rfl

theorem mem_of_lookup_eq_some [BEq κ] [LawfulBEq κ] {items : List (κ × α)} {key : κ} {value : α}
    (found : items.lookup key = some value) : (key, value) ∈ items := by
  rcases List.lookup_eq_some_iff.mp found with ⟨before, after, rfl, _⟩
  exact List.mem_append_right before List.mem_cons_self

theorem lookup_isSome_iff_mem_map [BEq κ] [LawfulBEq κ] {items : List (κ × α)} {key : κ} :
    (items.lookup key).isSome ↔ key ∈ items.map Prod.fst := by
  rw [List.lookup_isSome_iff, List.mem_map]
  exact exists_congr fun _ => and_congr_right fun _ => beq_iff_eq.trans eq_comm

end ClassAtlas
