import ClassAtlas.Json.Token

/-!
# Reading a value

Tokens are read one at a time by a machine whose memory is the stack of arrays
and objects that are still open. The reader is therefore a fold over the
tokens, and the depth of a value is the height of that stack.
-/

namespace ClassAtlas
namespace Json

/-- An array or object whose end has not been read; contents are kept last first. -/
inductive Open where
  | items (read : List Json)
  | members (read : List (Option String × Json)) (name : Option String)

inductive Reader where
  | beforeValue (outer : List Open)
  | arrayStart (outer : List Open)
  | objectStart (outer : List Open)
  | beforeName (outer : List Open) (read : List (Option String × Json))
  | afterName (outer : List Open) (read : List (Option String × Json)) (name : Option String)
  | afterValue (outer : List Open) (value : Json)

/-- What a reader asks for beyond the grammar: a bound on nesting, and whether the
value is held in memory, where numbers are doubles and strings are texts. -/
structure Limits where
  depth : Option Nat
  held : Bool

namespace Limits

def none : Limits where
  depth := Option.none
  held := false

def inMemory : Limits where
  depth := some 127
  held := true

def admitsDepth (limits : Limits) (outer : List Open) : Bool :=
  match limits.depth with
  | Option.none => true
  | some bound => outer.length < bound

def admitsNumber (limits : Limits) (literal : Number) : Bool :=
  !limits.held || literal.fitsDouble

def admitsString (limits : Limits) (text : Option String) : Bool :=
  !limits.held || text.isSome

end Limits

namespace Reader

def startMember (limits : Limits) (outer : List Open) (read : List (Option String × Json))
    (name : Option String) : Option Reader :=
  if limits.admitsString name then some (.afterName outer read name) else none

def startValue (limits : Limits) (outer : List Open) : Token → Option Reader
  | .null => some (.afterValue outer .null)
  | .bool value => some (.afterValue outer (.bool value))
  | .string text =>
      if limits.admitsString text then some (.afterValue outer (.ofString text)) else none
  | .number literal =>
      if limits.admitsNumber literal then some (.afterValue outer (.number literal)) else none
  | .openArray => if limits.admitsDepth outer then some (.arrayStart outer) else none
  | .openObject => if limits.admitsDepth outer then some (.objectStart outer) else none
  | _ => none

def step (limits : Limits) : Reader → Token → Option Reader
  | .beforeValue outer, token => startValue limits outer token
  | .arrayStart outer, .closeArray => some (.afterValue outer (.array []))
  | .arrayStart outer, token => startValue limits (.items [] :: outer) token
  | .objectStart outer, .closeObject => some (.afterValue outer (.object []))
  | .objectStart outer, .string name => startMember limits outer [] name
  | .beforeName outer read, .string name => startMember limits outer read name
  | .afterName outer read name, .colon => some (.beforeValue (.members read name :: outer))
  | .afterValue (.items read :: outer) value, .comma =>
      some (.beforeValue (.items (value :: read) :: outer))
  | .afterValue (.items read :: outer) value, .closeArray =>
      some (.afterValue outer (.array (value :: read).reverse))
  | .afterValue (.members read name :: outer) value, .comma =>
      some (.beforeName outer ((name, value) :: read))
  | .afterValue (.members read name :: outer) value, .closeObject =>
      some (.afterValue outer (.ofMembers ((name, value) :: read).reverse))
  | _, _ => none

/-- A reader is through when nothing is open and a value has been read. -/
def finished? : Reader → Option Json
  | .afterValue [] value => some value
  | _ => none

def run (limits : Limits) (reader : Reader) (tokens : List Token) : Option Reader :=
  tokens.foldlM (step limits) reader

end Reader

def ofTokens? (limits : Limits) (tokens : List Token) : Option Json :=
  (Reader.run limits (.beforeValue []) tokens).bind Reader.finished?

def parse? (limits : Limits) (text : String) : Option Json :=
  (Token.ofChars? text.toList).bind (ofTokens? limits)

end Json
end ClassAtlas
