import ClassAtlas.Command.Arguments
import ClassAtlas.Counterpart

/-!
# Commands

The program translates single descriptors, checks names against a whitelist, or
resolves an atlas; each of these takes its options from a file.
-/

namespace ClassAtlas

inductive Command where
  | version
  | translate (position : Position) (config : Option String) (descriptors : List String)
  | check (config : String) (names : List String)
  /-- Without a snapshot, classes come from the configured class path. -/
  | resolve (config : String) (output snapshot : Option String)
deriving DecidableEq

namespace Command

def configName : OptionName :=
  ⟨"config", none⟩

def translateShape : ArgumentShape where
  valued := [configName]
  flags := [⟨"return", none⟩]

def checkShape : ArgumentShape where
  valued := [configName]
  flags := []

def resolveShape : ArgumentShape where
  valued := [configName, ⟨"output", some 'o'⟩, ⟨"snapshot", none⟩, ⟨"timeout-secs", none⟩]
  flags := [⟨"verbose", some 'v'⟩]

def translate? (words : List String) : Option Command := do
  let arguments ← translateShape.read? words .none
  if arguments.operands.isEmpty then none
  else
    let position := if arguments.flags.contains "return" then .result else .parameter
    return translate position (arguments.value? "config") arguments.operands

def check? (words : List String) : Option Command := do
  let arguments ← checkShape.read? words .none
  if arguments.operands.isEmpty then none
  else return check (← arguments.value? "config") arguments.operands

def isSeconds (text : String) : Bool :=
  let digits :=
    match text.toList with
    | '+' :: digits => digits
    | digits => digits
  !digits.isEmpty && digits.all Char.isDigit && Nat.ofDigitChars 10 digits 0 < Nat.pow 2 64

/-- A time limit and a wish for a log are taken and change nothing: a resolution
always ends, and it keeps no log. -/
def resolve? (words : List String) : Option Command := do
  let arguments ← resolveShape.read? words .none
  let config ← arguments.value? "config"
  if !arguments.operands.isEmpty || !((arguments.value? "timeout-secs").all isSeconds) then none
  else return resolve config (arguments.value? "output") (arguments.value? "snapshot")

def ofWords? : List String → Option Command
  | "--version" :: _ | "-V" :: _ => some version
  | "translate" :: words => translate? words
  | "check" :: words => check? words
  | "resolve" :: words => resolve? words
  | _ => none

end Command
end ClassAtlas
