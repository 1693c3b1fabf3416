/-!
# Arguments

Arguments are options with a value, flags, and operands, in any order. An option
has a long name and may have a letter; letters of flags can be run together. None
may be given twice, and no value is empty.
-/

namespace ClassAtlas

structure OptionName where
  long : String
  letter : Option Char

structure ArgumentShape where
  valued : List OptionName
  flags : List OptionName

structure Arguments where
  values : List (String × String)
  flags : List String
  operands : List String

namespace Arguments

def none : Arguments :=
  ⟨[], [], []⟩

def value? (arguments : Arguments) (long : String) : Option String :=
  arguments.values.lookup long

def addValue? (arguments : Arguments) (long value : String) : Option Arguments :=
  if value.isEmpty || (arguments.value? long).isSome then Option.none
  else some { arguments with values := arguments.values ++ [(long, value)] }

def addFlag? (arguments : Arguments) (long : String) : Option Arguments :=
  if arguments.flags.contains long then Option.none
  else some { arguments with flags := arguments.flags ++ [long] }

def addOperands (arguments : Arguments) (operands : List String) : Arguments :=
  { arguments with operands := arguments.operands ++ operands }

end Arguments

namespace ArgumentShape

/-- What a word leads to: more words, or the value of an option first. -/
inductive Reading where
  | complete (arguments : Arguments)
  | awaits (long : String) (arguments : Arguments)

def named? (options : List OptionName) (long : String) : Option OptionName :=
  options.find? fun option => option.long = long

def lettered? (options : List OptionName) (letter : Char) : Option OptionName :=
  options.find? fun option => option.letter = some letter

def readLong? (shape : ArgumentShape) (text : List Char) (arguments : Arguments) :
    Option Reading :=
  let long := String.ofList (text.takeWhile (· ≠ '='))
  match named? shape.valued long, named? shape.flags long, text.dropWhile (· ≠ '=') with
  | some _, _, [] => some (.awaits long arguments)
  | some _, _, _ :: value => (arguments.addValue? long (String.ofList value)).map .complete
  | none, some _, [] => (arguments.addFlag? long).map .complete
  | none, _, _ => none

def withoutEquals : List Char → List Char
  | '=' :: rest => rest
  | text => text

def readLetters? (shape : ArgumentShape) : List Char → Arguments → Option Reading
  | [], arguments => some (.complete arguments)
  | letter :: rest, arguments =>
      match lettered? shape.flags letter, lettered? shape.valued letter with
      | some flag, _ => (arguments.addFlag? flag.long).bind (readLetters? shape rest)
      | none, some option =>
          if rest.isEmpty then some (.awaits option.long arguments)
          else
            (arguments.addValue? option.long (String.ofList (withoutEquals rest))).map .complete
      | none, none => none

/-- Whether a word is read as an option. A single dash is not. -/
def isOption (word : String) : Bool :=
  match word.toList with
  | '-' :: _ :: _ => true
  | _ => false

def readWord? (shape : ArgumentShape) (word : String) (arguments : Arguments) :
    Option Reading :=
  match word.toList with
  | '-' :: '-' :: long => shape.readLong? long arguments
  | '-' :: letter :: rest => shape.readLetters? (letter :: rest) arguments
  | _ => some (.complete (arguments.addOperands [word]))

/-- The arguments that words give; after two dashes all words are operands. -/
def read? (shape : ArgumentShape) : List String → Arguments → Option Arguments
  | [], arguments => some arguments
  | word :: rest, arguments =>
      if word = "--" then some (arguments.addOperands rest)
      else
        match shape.readWord? word arguments with
        | none => none
        | some (.complete next) => read? shape rest next
        | some (.awaits long next) =>
            match rest with
            | [] => none
            | value :: others =>
                if isOption value then none
                else (next.addValue? long value).bind (read? shape others)

end ArgumentShape
end ClassAtlas
