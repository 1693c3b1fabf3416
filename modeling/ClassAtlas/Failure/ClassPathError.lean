import ClassAtlas.Failure.Basic

/-!
# Failures of a class path

An entry of a class path may be missing or unreadable, and a file may be none of
the forms that entries come in. To a run each of these means that its source of
classes cannot be used.
-/

namespace ClassAtlas

inductive ClassPathError where
  | file (path : String) (error : FileError)
  | archive (path : String)
  | image (path : String)
  | unrecognized (path : String)
deriving DecidableEq

namespace ClassPathError

def message : ClassPathError → String
  | file path error => "cannot read " ++ path ++ ": " ++ error.message
  | archive path => "cannot read archive " ++ path ++ ": not in a form that can be read"
  | image path => "cannot read runtime image " ++ path ++ ": not in a form that can be read"
  | unrecognized path => "not a class directory, archive or runtime image: " ++ path

def toLoadError (error : ClassPathError) : LoadError :=
  .unavailable error.message

def toCause (error : ClassPathError) : Cause :=
  .unavailable error.message

end ClassPathError
end ClassAtlas
