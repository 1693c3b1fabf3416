import ClassAtlas.Failure.FileError
import ClassAtlas.Failure.LoadError
import ClassAtlas.Text.Quoted

/-!
# Failures of a run

A failure is a cause, or a cause together with the class whose resolution it
stopped. The cause below a class is never again such a pair.
-/

namespace ClassAtlas

inductive Misconfiguration where
  | className (text : String)
  | packageName (text : String)
  | seedName (text : String)
  | emptyWhitelist
  | unreadable (path : String) (error : FileError)
deriving DecidableEq

namespace Misconfiguration

def message : Misconfiguration → String
  | className text => "invalid whitelisted class name " ++ Text.quoted text
  | packageName text => "invalid whitelisted package name " ++ Text.quoted text
  | seedName text => "invalid seed class name " ++ Text.quoted text
  | emptyWhitelist => "whitelist is empty: configure `classes` or `packages`"
  | unreadable path error => "cannot read " ++ path ++ ": " ++ error.message

end Misconfiguration

inductive Cause where
  | classNotFound (name : ClassName)
  | unsupportedType (text : String)
  | unavailable (reason : String)
  | misconfigured (fault : Misconfiguration)
  | file (error : FileError)
  | notJson
deriving DecidableEq

inductive FailureKind where
  | notFound
  | unsupportedType
  | unavailable
  | configuration
  | io
deriving DecidableEq

namespace Cause

def kind : Cause → FailureKind
  | classNotFound _ => .notFound
  | unsupportedType _ => .unsupportedType
  | unavailable _ => .unavailable
  | misconfigured _ => .configuration
  | file _ => .io
  | notJson => .io

def message : Cause → String
  | classNotFound name => "class not found: " ++ name.text
  | unsupportedType text => "unsupported type descriptor: " ++ Text.quoted text
  | unavailable reason => "reflection bridge unavailable: " ++ reason
  | misconfigured fault => "configuration error: " ++ fault.message
  | file error => "I/O error: " ++ error.message
  | notJson => "JSON serialization/deserialization error: not the expected record"

/-- A class that does not exist stays told apart; every other failure of a source
means that the source cannot be used. -/
def ofLoadError : LoadError → Cause
  | .notFound name => .classNotFound name
  | .unavailable reason => .unavailable reason
  | .malformed name defect => .unavailable (LoadError.malformed name defect).message

end Cause

inductive Failure where
  | plain (cause : Cause)
  | resolving (name : ClassName) (cause : Cause)
deriving DecidableEq

namespace Failure

def cause : Failure → Cause
  | plain cause => cause
  | resolving _ cause => cause

def kind (failure : Failure) : FailureKind :=
  failure.cause.kind

def className? : Failure → Option ClassName
  | plain (.classNotFound name) => some name
  | plain _ => none
  | resolving name _ => some name

def message : Failure → String
  | plain cause => cause.message
  | resolving name cause => "failed to resolve " ++ name.text ++ ": " ++ cause.message

end Failure
end ClassAtlas
