/-!
# Blank characters

White space in the sense of Unicode, and trimming by it. A trimmed text starts
and ends with a character that is not blank.
-/

namespace ClassAtlas
namespace Text

def isBlank (c : Char) : Bool :=
  let code := c.toNat
  (9 ≤ code && code ≤ 13) || code = 0x20 || code = 0x85 || code = 0xA0 ||
    code = 0x1680 || (0x2000 ≤ code && code ≤ 0x200A) || code = 0x2028 ||
    code = 0x2029 || code = 0x202F || code = 0x205F || code = 0x3000

/-!
# Trimming

Both ends are cut by the same rule, so the cut at the end is the cut at the
start of the reversed text.
-/

def trimStart (text : List Char) : List Char :=
  text.dropWhile isBlank

def trimEnd (text : List Char) : List Char :=
  (text.reverse.dropWhile isBlank).reverse

def trim (text : List Char) : List Char :=
  trimEnd (trimStart text)

theorem trimEnd_append_blanks (text : List Char) {blanks : List Char}
    (blank : ∀ c ∈ blanks, isBlank c = true) : trimEnd (text ++ blanks) = trimEnd text := by
  rw [trimEnd, List.reverse_append, List.dropWhile_append_of_pos, trimEnd]
  intro c mem
  exact blank c (List.mem_reverse.mp mem)

theorem trimEnd_append_solid (text : List Char) {c : Char} (solid : isBlank c = false) :
    trimEnd (text ++ [c]) = text ++ [c] := by
  simp [trimEnd, solid]

theorem exists_trim (text : List Char) :
    ∃ front back, text = front ++ (trim text ++ back) ∧
      (∀ c ∈ front, isBlank c = true) ∧ ∀ c ∈ back, isBlank c = true := by
  refine ⟨text.takeWhile isBlank, ((trimStart text).reverse.takeWhile isBlank).reverse, ?_, ?_, ?_⟩
  · have back := congrArg List.reverse
      (List.takeWhile_append_dropWhile (p := isBlank) (l := (trimStart text).reverse))
    rw [List.reverse_append, List.reverse_reverse] at back
    rw [trim, trimEnd, back, trimStart, List.takeWhile_append_dropWhile]
  · exact fun c mem => List.all_eq_true.mp List.all_takeWhile c mem
  · exact fun c mem => List.all_eq_true.mp List.all_takeWhile c (List.mem_reverse.mp mem)

structure IsTrimmed (text : List Char) : Prop where
  starts : ∀ c ∈ text.head?, isBlank c = false
  ends : ∀ c ∈ text.getLast?, isBlank c = false

theorem isTrimmed_of_ends {text : List Char} {first last : Char} {rest before : List Char}
    (starts : text = first :: rest) (ends : text = before ++ [last])
    (solidFirst : isBlank first = false) (solidLast : isBlank last = false) :
    IsTrimmed text := by
  constructor
  · rw [starts]
    intro c isFirst
    rwa [← Option.some.inj isFirst]
  · rw [ends, List.getLast?_concat]
    intro c isLast
    rwa [← Option.some.inj isLast]

theorem trimEnd_of_isTrimmed {text : List Char} (trimmed : IsTrimmed text) :
    trimEnd text = text := by
  rcases List.eq_nil_or_concat text with rfl | ⟨before, last, rfl⟩
  · rfl
  · rw [List.concat_eq_append]
    exact trimEnd_append_solid before (trimmed.ends last (by simp))

theorem trim_of_isTrimmed {text : List Char} (trimmed : IsTrimmed text) : trim text = text := by
  have start : trimStart text = text := by
    cases text with
    | nil => rfl
    | cons first rest =>
        have solid : isBlank first = false := trimmed.starts first rfl
        rw [trimStart, List.dropWhile_cons_of_neg (by simp [solid])]
  rw [trim, start, trimEnd_of_isTrimmed trimmed]

end Text
end ClassAtlas
