import ClassAtlas.Text.Alphabetic
import ClassAtlas.Text.Numeric

/-!
# Identifiers

An identifier starts with a letter, an underscore or a dollar sign and goes on
with those and with numerals.
-/

namespace ClassAtlas
namespace Text

def startsIdentifier (c : Char) : Bool :=
  isAlphabetic c || c = '_' || c = '$'

def continuesIdentifier (c : Char) : Bool :=
  isAlphabetic c || isNumeric c || c = '_' || c = '$'

def isIdentifier : List Char → Bool
  | [] => false
  | first :: rest => startsIdentifier first && rest.all continuesIdentifier

theorem continuesIdentifier_of_starts {c : Char} (starts : startsIdentifier c = true) :
    continuesIdentifier c = true := by
  simp only [startsIdentifier, continuesIdentifier, Bool.or_eq_true] at starts ⊢
  rcases starts with (letter | low) | dollar
  · simp [letter]
  · simp [low]
  · simp [dollar]

theorem isIdentifier_ne_nil {text : List Char} (valid : isIdentifier text = true) :
    text ≠ [] := by
  intro empty
  simp [empty, isIdentifier] at valid

theorem continuesIdentifier_of_mem {text : List Char} (valid : isIdentifier text = true)
    {c : Char} (mem : c ∈ text) : continuesIdentifier c = true := by
  cases text with
  | nil => simp at mem
  | cons first rest =>
      simp only [isIdentifier, Bool.and_eq_true, List.all_eq_true] at valid
      rcases List.mem_cons.mp mem with rfl | later
      · exact continuesIdentifier_of_starts valid.left
      · exact valid.right c later

end Text
end ClassAtlas
