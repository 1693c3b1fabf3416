import ClassAtlas.ClassName.Basic

/-!
# Failures of a class source

A source of class declarations answers a request with a declaration, or says
that the class does not exist, that the source itself is out of order, or that
the metadata it holds for the class makes no sense.
-/

namespace ClassAtlas

inductive Defect where
  | answersWith (answer : ClassName)
  | unreadable (detail : String)
  | declares (path : String)
  | badClassReference (index : Nat)
  | badText (index : Nat)
  | badDescriptor (descriptor : String)
  | other (reason : String)
deriving DecidableEq

namespace Defect

def message : Defect → String
  | answersWith answer => "bridge answered with " ++ answer.text
  | unreadable detail => "unreadable class file: " ++ detail
  | declares path => "class file declares " ++ path
  | badClassReference index =>
      "bad class reference #" ++ toString index ++ ": not a class constant"
  | badText index => "bad utf8 constant #" ++ toString index ++ ": not a text constant"
  | badDescriptor descriptor => "bad descriptor " ++ descriptor ++ ": not a method descriptor"
  | other reason => reason

end Defect

inductive LoadError where
  | notFound (name : ClassName)
  | unavailable (reason : String)
  | malformed (name : ClassName) (defect : Defect)
deriving DecidableEq

namespace LoadError

def message : LoadError → String
  | notFound name => "class not found: " ++ name.text
  | unavailable reason => "bridge unavailable: " ++ reason
  | malformed name defect => "malformed metadata for " ++ name.text ++ ": " ++ defect.message

end LoadError
end ClassAtlas
