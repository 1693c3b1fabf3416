/-!
# Lists of results

Computations that may fail are often run over a list: to collect all results, or to find
the first answer. These facts say what comes of a whole list in terms of its items.
-/

namespace ClassAtlas

section

variable {ε : Type v} {α β : Type u}

theorem of_error_eq_ok {error : ε} {value : α} {P : Prop}
    (impossible : Except.error error = Except.ok value) : P :=
  nomatch impossible

theorem exists_of_bind_eq_ok {first : Except ε α} {next : α → Except ε β} {result : β}
    (succeeded : first >>= next = .ok result) :
    ∃ value, first = .ok value ∧ next value = .ok result := by
  cases first with
  | error error => exact of_error_eq_ok succeeded
  | ok value => exact ⟨value, rfl, succeeded⟩

end

/-!
# Collecting all results
-/

/-- A computation that yields a value has yielded one at each of its steps. -/
structure Stepwise (m : Type u → Type v) [Monad m] : Prop where
  of_bind : ∀ {α β : Type u} {first : m α} {next : α → m β} {result : β},
    first >>= next = pure result → ∃ value, first = pure value ∧ next value = pure result
  of_pure : ∀ {α : Type u} {left right : α}, (pure left : m α) = pure right → left = right

theorem stepwise_except {ε : Type v} : Stepwise (Except ε) where
  of_bind := exists_of_bind_eq_ok
  of_pure := Except.ok.inj

theorem stepwise_option : Stepwise Option where
  of_bind := Option.bind_eq_some_iff.mp
  of_pure := Option.some.inj

section

variable {m : Type u → Type v} [Monad m] [LawfulMonad m] {α : Type w} {β : Type u} {f : α → m β}
  {items : List α} {results : List β}

theorem Stepwise.mapM_eq_pure_iff (stepwise : Stepwise m) :
    items.mapM f = pure results ↔ items.map f = results.map pure := by
  induction items generalizing results with
  | nil =>
      rw [List.mapM_nil, List.map_nil]
      constructor
      · intro succeeded
        rw [← stepwise.of_pure succeeded, List.map_nil]
      · intro same
        rw [List.map_eq_nil_iff.mp same.symm]
  | cons first rest ih =>
      rw [List.mapM_cons, List.map_cons]
      constructor
      · intro succeeded
        rcases stepwise.of_bind succeeded with ⟨value, found, later⟩
        rcases stepwise.of_bind later with ⟨values, others, last⟩
        rw [← stepwise.of_pure last, List.map_cons, found, ih.mp others]
      · intro same
        cases results with
        | nil => cases same
        | cons value values =>
            rcases List.cons.inj same with ⟨found, others⟩
            rw [found, ih.mpr others, pure_bind, pure_bind]

theorem Stepwise.mem_of_mapM (stepwise : Stepwise m) (succeeded : items.mapM f = pure results) :
    (∀ item ∈ items, ∃ result ∈ results, f item = pure result) ∧
      ∀ result ∈ results, ∃ item ∈ items, f item = pure result := by
  have same := stepwise.mapM_eq_pure_iff.mp succeeded
  constructor
  · intro item mem
    have inResults : f item ∈ results.map pure := same ▸ List.mem_map_of_mem mem
    rcases List.mem_map.mp inResults with ⟨result, isResult, found⟩
    exact ⟨result, isResult, found.symm⟩
  · intro result mem
    have inImages : pure result ∈ items.map f := same ▸ List.mem_map_of_mem mem
    exact List.mem_map.mp inImages

theorem exists_mapM_eq_pure (each : ∀ item ∈ items, ∃ result, f item = pure result) :
    ∃ results, items.mapM f = pure results := by
  induction items with
  | nil => exact ⟨[], List.mapM_nil⟩
  | cons first rest ih =>
      rcases each first List.mem_cons_self with ⟨value, found⟩
      rcases ih fun item mem => each item (List.mem_cons_of_mem first mem) with ⟨values, others⟩
      exact ⟨value :: values, by rw [List.mapM_cons, found, others, pure_bind, pure_bind]⟩

end

section

variable {f : α → Option β} {items : List α} {results : List β}

theorem mapM_eq_some_map {g : α → β} (each : ∀ item ∈ items, f item = some (g item)) :
    items.mapM f = some (items.map g) := by
  refine stepwise_option.mapM_eq_pure_iff.mpr ?_
  rw [List.map_map]
  exact List.map_congr_left each

theorem mem_of_mapM_eq_some (succeeded : items.mapM f = some results) :
    (∀ item ∈ items, ∃ result ∈ results, f item = some result) ∧
      ∀ result ∈ results, ∃ item ∈ items, f item = some result :=
  stepwise_option.mem_of_mapM succeeded

theorem exists_mapM_eq_some (each : ∀ item ∈ items, ∃ result, f item = some result) :
    ∃ results, items.mapM f = some results :=
  exists_mapM_eq_pure each

end

section

variable {ε α β : Type} {f : α → Except ε β} {items : List α} {results : List β}

theorem mapM_eq_ok_iff : items.mapM f = .ok results ↔ items.map f = results.map .ok :=
  stepwise_except.mapM_eq_pure_iff

theorem exists_of_mem_mapM (succeeded : items.mapM f = .ok results) {result : β}
    (mem : result ∈ results) : ∃ item ∈ items, f item = .ok result :=
  (stepwise_except.mem_of_mapM succeeded).right result mem

theorem exists_result_of_mem (succeeded : items.mapM f = .ok results) {item : α}
    (mem : item ∈ items) : ∃ result ∈ results, f item = .ok result :=
  (stepwise_except.mem_of_mapM succeeded).left item mem

theorem exists_mapM_of_forall (each : ∀ item ∈ items, ∃ result, f item = .ok result) :
    ∃ results, items.mapM f = .ok results :=
  exists_mapM_eq_pure each

theorem eq_ok_of_mem_zip (succeeded : items.mapM f = .ok results) {pair : α × β}
    (mem : pair ∈ items.zip results) : f pair.1 = .ok pair.2 := by
  have same := mapM_eq_ok_iff.mp succeeded
  clear succeeded
  induction items generalizing results with
  | nil => cases mem
  | cons first rest ih =>
      cases results with
      | nil => cases mem
      | cons value values =>
          rcases List.cons.inj same with ⟨found, others⟩
          rcases List.mem_cons.mp mem with rfl | later
          · exact found
          · exact ih later others

/-- What holds pairwise of items carries over to the results computed from them. -/
theorem pairwise_of_mapM {R : α → α → Prop} {S : β → β → Prop}
    (carries : ∀ left right resultLeft resultRight, f left = .ok resultLeft →
      f right = .ok resultRight → R left right → S resultLeft resultRight)
    (succeeded : items.mapM f = .ok results) (pairwise : items.Pairwise R) :
    results.Pairwise S := by
  have same := mapM_eq_ok_iff.mp succeeded
  have images : (items.map f).Pairwise fun left right => ∀ resultLeft resultRight,
      left = .ok resultLeft → right = .ok resultRight → S resultLeft resultRight := by
    rw [List.pairwise_map]
    exact pairwise.imp fun related resultLeft resultRight madeLeft madeRight =>
      carries _ _ resultLeft resultRight madeLeft madeRight related
  rw [same, List.pairwise_map] at images
  exact images.imp fun related => related _ _ rfl rfl

/-!
# What made a computation fail
-/

def fault? : Except ε α → Option ε
  | .ok _ => none
  | .error error => some error

theorem fault?_eq_some_iff {result : Except ε α} {error : ε} :
    fault? result = some error ↔ result = .error error := by
  cases result with
  | ok value => simp [fault?]
  | error other => simp [fault?]

theorem fault?_bind {first : Except ε α} {next : α → Except ε β} {later : Option ε}
    (each : ∀ value, first = .ok value → fault? (next value) = later) :
    fault? (first >>= next) = (fault? first).or later := by
  cases first with
  | ok value => exact each value rfl
  | error error => rfl

theorem fault?_map (change : α → β) (result : Except ε α) :
    fault? (result.map change) = fault? result := by
  cases result <;> rfl

theorem fault?_mapM (f : α → Except ε β) (items : List α) :
    fault? (items.mapM f) = items.findSome? fun item => fault? (f item) := by
  induction items with
  | nil => rfl
  | cons first rest ih =>
      have inTurn : fault? ((first :: rest).mapM f) =
          (fault? (f first)).or ((fault? (rest.mapM f)).or none) := by
        rw [List.mapM_cons]
        exact fault?_bind fun _ _ => fault?_bind fun _ _ => rfl
      rw [inTurn, Option.or_none, ih, List.findSome?_cons]
      cases fault? (f first) <;> rfl

end

/-!
# Finding the first answer
-/

section

variable {ε α β : Type} {f g : α → Except ε (Option β)} {items : List α}

theorem findSomeM?_congr (same : ∀ item ∈ items, f item = g item) :
    items.findSomeM? f = items.findSomeM? g := by
  induction items with
  | nil => rfl
  | cons first rest ih =>
      rw [List.findSomeM?_cons, List.findSomeM?_cons, same first List.mem_cons_self,
        ih fun item mem => same item (List.mem_cons_of_mem first mem)]

theorem findSomeM?_eq_ok {answer? : α → Option β}
    (each : ∀ item ∈ items, f item = .ok (answer? item)) :
    items.findSomeM? f = .ok (items.findSome? answer?) := by
  rw [findSomeM?_congr each]
  exact List.findSomeM?_pure

theorem exists_of_findSomeM? {answer : β} (found : items.findSomeM? f = .ok (some answer)) :
    ∃ item ∈ items, f item = .ok (some answer) := by
  induction items with
  | nil => exact absurd (Except.ok.inj found) (by simp)
  | cons first rest ih =>
      rw [List.findSomeM?_cons] at found
      rcases exists_of_bind_eq_ok found with ⟨fromFirst, answered, later⟩
      cases fromFirst with
      | some given =>
          rcases Option.some.inj (Except.ok.inj later) with rfl
          exact ⟨first, List.mem_cons_self, answered⟩
      | none =>
          rcases ih later with ⟨item, mem, answered⟩
          exact ⟨item, List.mem_cons_of_mem first mem, answered⟩

/-- Items that answer alike may stand for each other. -/
theorem findSomeM?_replace {one other : α} (same : f one = f other) (before after : List α) :
    (before ++ one :: after).findSomeM? f = (before ++ other :: after).findSomeM? f := by
  induction before with
  | nil =>
      rw [List.nil_append, List.nil_append, List.findSomeM?_cons, List.findSomeM?_cons, same]
  | cons first rest ih =>
      rw [List.cons_append, List.cons_append, List.findSomeM?_cons, List.findSomeM?_cons, ih]

end

end ClassAtlas
