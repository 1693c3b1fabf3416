import Mathlib.Data.List.Nodup
import ClassAtlas.ClassName.Nested
import ClassAtlas.ClassName.Path
import ClassAtlas.Proofs.ClassName.Escaping
import ClassAtlas.Text.Utf8

/-!
# Nested classes

The spellings of a name are made in rounds. A round takes the last slash that is left and turns it
into a dollar sign, if the segment before it starts with a capital; otherwise it is the end. So the
rounds pass the segments of the name from the one before the last to the left, and what they give
is the slashed form with ever more of its slashes, counted from the right, as dollar signs.
-/

namespace ClassAtlas
namespace ClassName

def nextSpelling? (path : List Char) : Option (List Char) :=
  match Text.splitLast? '/' path with
  | none => none
  | some (before, after) =>
      if startsUpper (lastSegment before) then some (before ++ '$' :: after) else none

def afterRounds : Nat → List Char → Option (List Char)
  | 0, path => some path
  | rounds + 1, path => (nextSpelling? path).bind (afterRounds rounds)

/-- The path with this many of its last slashes as dollar signs. These are the slashes that have
fewer than so many slashes behind them. -/
def withDollars (marks : Nat) : List Char → List Char
  | [] => []
  | c :: rest => (if c = '/' ∧ rest.count '/' < marks then '$' else c) :: withDollars marks rest

/-- How many segments in a row start with an ASCII capital, from the one before the last to the
left. -/
def enclosingTypes (segments : List (List Char)) : Nat :=
  (segments.dropLast.reverse.takeWhile startsUpper).length

def storedSegments (name : ClassName) : List (List Char) :=
  name.slashedChars.splitOn '/'

theorem enclosingTypes_lt_length {segments : List (List Char)} (present : segments ≠ []) :
    enclosingTypes segments < segments.length := by
  have short := (List.takeWhile_sublist (l := segments.dropLast.reverse) startsUpper).length_le
  rw [List.length_reverse, List.length_dropLast] at short
  have some := List.length_pos_iff.mpr present
  rw [enclosingTypes]
  omega

/-!
# Dollar signs from the right
-/

theorem withDollars_zero (path : List Char) : withDollars 0 path = path := by
  induction path with
  | nil => rfl
  | cons c rest ih => simp [withDollars, ih]

theorem withDollars_of_not_mem {path : List Char} (clean : '/' ∉ path) (marks : Nat) :
    withDollars marks path = path := by
  induction path with
  | nil => rfl
  | cons c rest ih =>
      rw [List.mem_cons, not_or] at clean
      rw [withDollars, if_neg fun both => clean.left both.left.symm, ih clean.right]

theorem withDollars_one {before after : List Char} (clean : '/' ∉ after) :
    withDollars 1 (before ++ '/' :: after) = before ++ '$' :: after := by
  induction before with
  | nil => simp [withDollars, withDollars_of_not_mem clean, List.count_eq_zero.mpr clean]
  | cons c rest ih => simp [withDollars, ih]

theorem count_withDollars (marks : Nat) (path : List Char) :
    (withDollars marks path).count '/' = path.count '/' - marks := by
  induction path with
  | nil => simp [withDollars]
  | cons c rest ih =>
      rw [withDollars, List.count_cons, List.count_cons, ih]
      by_cases slash : c = '/'
      · by_cases isLate : rest.count '/' < marks
        · simp [slash, isLate]
          omega
        · simp [slash, isLate]
          omega
      · simp [slash]

theorem withDollars_withDollars_one (marks : Nat) (path : List Char) :
    withDollars marks (withDollars 1 path) = withDollars (marks + 1) path := by
  induction path with
  | nil => rfl
  | cons c rest ih =>
      rw [withDollars, withDollars, withDollars, ih, count_withDollars]
      by_cases slash : c = '/'
      · -- The last slash is a dollar sign by now; before any other there is one slash less.
        by_cases isLast : rest.count '/' < 1
        · have early : rest.count '/' < marks + 1 := by omega
          simp [slash, isLast, early]
        · have shift : rest.count '/' - 1 < marks ↔ rest.count '/' < marks + 1 := by omega
          simp [slash, isLast, shift]
      · simp [slash]

theorem length_withDollars (marks : Nat) (path : List Char) :
    (withDollars marks path).length = path.length := by
  induction path with
  | nil => rfl
  | cons c rest ih => rw [withDollars, List.length_cons, List.length_cons, ih]

theorem utf8ByteSize_withDollars (marks : Nat) (path : List Char) :
    (String.ofList (withDollars marks path)).utf8ByteSize = (String.ofList path).utf8ByteSize := by
  induction path with
  | nil => rfl
  | cons c rest ih =>
      rw [withDollars, Text.utf8ByteSize_cons, Text.utf8ByteSize_cons, ih]
      split
      · next marked => rw [marked.left]; rfl
      · rfl

/-!
# One round
-/

theorem exists_splitOn_eq_append_lastSegment (path : List Char) :
    ∃ others, path.splitOn '/' = others ++ [lastSegment path] := by
  unfold lastSegment
  cases found : Text.splitLast? '/' path with
  | none => exact ⟨[], List.splitOn_eq_singleton (Text.splitLast?_eq_none_iff.mp found)⟩
  | some parts => exact ⟨_, Text.splitOn_of_splitLast? found⟩

/-- A round joins the last two segments, and leaves those before them to the rounds to come. -/
theorem enclosingTypes_of_splitLast? {path before after : List Char}
    (found : Text.splitLast? '/' path = some (before, after)) :
    enclosingTypes (path.splitOn '/') =
      if startsUpper (lastSegment before) then
        1 + enclosingTypes ((before ++ '$' :: after).splitOn '/')
      else 0 := by
  have clean : '/' ∉ '$' :: after := by
    simp [(Text.eq_append_of_splitLast? found).right]
  rcases exists_splitOn_eq_append_lastSegment before with ⟨others, whole⟩
  rcases Text.exists_splitOn_append clean before with ⟨same, last, wholeAgain, extended⟩
  rcases List.append_inj' (whole.symm.trans wholeAgain) rfl with ⟨rfl, _⟩
  rw [enclosingTypes, enclosingTypes, Text.splitOn_of_splitLast? found, extended,
    List.dropLast_concat, List.dropLast_concat, whole, List.reverse_append, List.reverse_singleton,
    List.singleton_append, List.takeWhile_cons]
  split
  · rw [List.length_cons, Nat.add_comm]
  · rfl

theorem nextSpelling?_cases (path : List Char) :
    (nextSpelling? path = none ∧ enclosingTypes (path.splitOn '/') = 0) ∨
    (nextSpelling? path = some (withDollars 1 path) ∧
      enclosingTypes (path.splitOn '/') =
        1 + enclosingTypes ((withDollars 1 path).splitOn '/')) := by
  unfold nextSpelling?
  cases found : Text.splitLast? '/' path with
  | none =>
      rw [List.splitOn_eq_singleton (Text.splitLast?_eq_none_iff.mp found)]
      exact Or.inl ⟨rfl, rfl⟩
  | some parts =>
      rcases parts with ⟨before, after⟩
      rcases Text.eq_append_of_splitLast? found with ⟨whole, clean⟩
      have marked : withDollars 1 path = before ++ '$' :: after := by
        rw [whole, withDollars_one clean]
      rw [enclosingTypes_of_splitLast? found, marked]
      by_cases isType : startsUpper (lastSegment before)
      · rw [if_pos isType]
        exact Or.inr ⟨if_pos isType, rfl⟩
      · rw [if_neg isType]
        exact Or.inl ⟨if_neg isType, rfl⟩

/-!
# All rounds
-/

theorem afterRounds_eq (rounds : Nat) (path : List Char) :
    afterRounds rounds path =
      if rounds ≤ enclosingTypes (path.splitOn '/') then some (withDollars rounds path)
      else none := by
  induction rounds generalizing path with
  | zero => simp [afterRounds, withDollars_zero]
  | succ rounds ih =>
      rw [afterRounds]
      rcases nextSpelling?_cases path with ⟨stops, none⟩ | ⟨goesOn, more⟩
      · rw [stops, none]
        rfl
      · rw [goesOn, Option.bind_some, ih, withDollars_withDollars_one, more, Nat.add_comm 1]
        simp only [Nat.succ_le_succ_iff]

theorem respellings_eq (path : List Char) :
    respellings path = path :: (nextSpelling? path).elim [] respellings := by
  rw [respellings]
  unfold nextSpelling?
  split
  · next found => simp [found]
  · next before after found =>
      rw [found]
      split <;> simp [*]

theorem getElem?_respellings (path : List Char) (rounds : Nat) :
    (respellings path)[rounds]? = afterRounds rounds path := by
  induction rounds generalizing path with
  | zero => rw [respellings_eq]; rfl
  | succ rounds ih =>
      rw [respellings_eq, List.getElem?_cons_succ, afterRounds]
      cases nextSpelling? path with
      | none => rfl
      | some next => exact ih next

theorem respellings_eq_map_range (path : List Char) :
    respellings path =
      (List.range (1 + enclosingTypes (path.splitOn '/'))).map fun marks =>
        withDollars marks path := by
  refine List.ext_getElem? fun rounds => ?_
  rw [getElem?_respellings, afterRounds_eq, List.getElem?_map]
  split
  · rw [List.getElem?_range (by omega)]
    rfl
  · rw [List.getElem?_eq_none (by rw [List.length_range]; omega)]
    rfl

/-!
# Segments of the slashed form
-/

theorem storedSegments_eq_segments_iff {name : ClassName} :
    name.storedSegments = name.segments ↔ '/' ∉ name.chars := by
  constructor
  · intro same slash
    rcases (mem_chars_iff (by decide)).mp slash with ⟨segment, inName, mem⟩
    rw [← same] at inName
    exact Text.not_mem_of_mem_splitOn inName mem
  · intro clean
    exact Text.splitOn_map_dot clean

theorem enclosingTypes_le_count (name : ClassName) :
    enclosingTypes name.storedSegments ≤ name.slashedChars.count '/' := by
  have short := enclosingTypes_lt_length (List.splitOn_ne_nil '/' name.slashedChars)
  rw [Text.length_splitOn] at short
  exact Nat.le_of_lt_succ short

/-!
# Spellings of a name
-/

theorem binaryNames_eq_map_range (name : ClassName) :
    name.binaryNames = (List.range (1 + enclosingTypes name.storedSegments)).map fun marks =>
      String.ofList (withDollars marks name.slashedChars) := by
  rw [binaryNames, respellings_eq_map_range, List.map_map]
  rfl

theorem mem_binaryNames_iff {name : ClassName} {path : String} :
    path ∈ name.binaryNames ↔ ∃ marks ≤ enclosingTypes name.storedSegments,
      path = String.ofList (withDollars marks name.slashedChars) := by
  rw [binaryNames_eq_map_range, List.mem_map]
  constructor
  · intro found
    rcases found with ⟨marks, inRange, rfl⟩
    have few := List.mem_range.mp inRange
    exact ⟨marks, by omega, rfl⟩
  · intro found
    rcases found with ⟨marks, few, rfl⟩
    exact ⟨marks, List.mem_range.mpr (by omega), rfl⟩

theorem nodup_binaryNames (name : ClassName) : name.binaryNames.Nodup := by
  have few := enclosingTypes_le_count name
  rw [binaryNames_eq_map_range]
  refine List.Nodup.map_on (fun marks inRange others inRangeToo same => ?_) List.nodup_range
  have counts := congrArg (List.count '/') (String.ofList_injective same)
  rw [count_withDollars, count_withDollars] at counts
  rw [List.mem_range] at inRange inRangeToo
  omega

theorem size_of_mem_binaryNames {name : ClassName} {path : String}
    (mem : path ∈ name.binaryNames) : path.length = name.internalName.length ∧
      path.utf8ByteSize = name.internalName.utf8ByteSize := by
  rcases mem_binaryNames_iff.mp mem with ⟨marks, _, rfl⟩
  refine ⟨?_, utf8ByteSize_withDollars marks name.slashedChars⟩
  rw [internalName, String.length_ofList, String.length_ofList, length_withDollars]

/-- Each spelling of a name is what one more round makes of the spelling before it. There are as
many rounds as segments in a row that start with a capital, from the one before the last to the
left, and then no more. After some rounds the spelling is the slashed form with that many of its
last slashes as dollar signs. So the slashed form comes first, no two spellings are the same, and
all are of one size. The segments are those between the dots, unless the name has slashes too. -/
theorem binaryNames_by_rounds (name : ClassName) :
    (name.storedSegments = name.segments ↔ '/' ∉ name.chars) ∧
    name.storedSegments.length = name.slashedChars.count '/' + 1 ∧
    enclosingTypes name.storedSegments < name.storedSegments.length ∧
    name.binaryNames.length = 1 + enclosingTypes name.storedSegments ∧
    (∀ rounds, name.binaryNames[rounds]? =
      (afterRounds rounds name.slashedChars).map String.ofList) ∧
    (∀ rounds, afterRounds rounds name.slashedChars =
      if rounds ≤ enclosingTypes name.storedSegments then
        some (withDollars rounds name.slashedChars)
      else none) ∧
    name.binaryNames.head? = some name.internalName ∧
    name.binaryNames.Nodup ∧
    ∀ path ∈ name.binaryNames, path.length = name.internalName.length ∧
      path.utf8ByteSize = name.internalName.utf8ByteSize := by
  have byRounds : ∀ rounds, name.binaryNames[rounds]? =
      (afterRounds rounds name.slashedChars).map String.ofList := by
    intro rounds
    rw [binaryNames, List.getElem?_map, getElem?_respellings]
  refine ⟨storedSegments_eq_segments_iff, Text.length_splitOn '/' _,
    enclosingTypes_lt_length (List.splitOn_ne_nil '/' _), ?_, byRounds,
    fun rounds => afterRounds_eq rounds _, ?_, nodup_binaryNames name,
    fun _ => size_of_mem_binaryNames⟩
  · rw [binaryNames_eq_map_range, List.length_map, List.length_range]
  · rw [List.head?_eq_getElem?, byRounds]
    rfl

theorem binaryNames_by_rounds_twiceNested :
    '/' ∉ (⟨"a.B.C.D"⟩ : ClassName).chars ∧
    enclosingTypes (⟨"a.B.C.D"⟩ : ClassName).segments = 2 ∧
    (⟨"a.B.C.D"⟩ : ClassName).binaryNames = ["a/B/C/D", "a/B/C$D", "a/B$C$D"] ∧
    "a/B$C$D".length = (⟨"a.B.C.D"⟩ : ClassName).internalName.length := by
  have clean : '/' ∉ (⟨"a.B.C.D"⟩ : ClassName).chars := by decide
  have two : enclosingTypes (⟨"a.B.C.D"⟩ : ClassName).segments = 2 := by decide
  rcases binaryNames_by_rounds ⟨"a.B.C.D"⟩ with ⟨dotted, _, _, _, byRounds, ends, _, _, sized⟩
  rw [dotted.mpr clean, two] at ends
  have spellings : (⟨"a.B.C.D"⟩ : ClassName).binaryNames = ["a/B/C/D", "a/B/C$D", "a/B$C$D"] := by
    refine List.ext_getElem? fun rounds => ?_
    rw [byRounds, ends]
    match rounds with
    | 0 => decide
    | 1 => decide
    | 2 => decide
    | rounds + 3 => rw [if_neg (by omega)]; rfl
  exact ⟨clean, two, spellings, (sized _ (by rw [spellings]; decide)).left⟩

end ClassName
end ClassAtlas
