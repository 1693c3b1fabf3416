/-!
# File errors

What can go wrong when a file is opened, read or written. Where the wording has
an error number, it is that of the operating system.
-/

namespace ClassAtlas

inductive FileError where
  | notFound
  | alreadyExists
  | notDirectory
  | isDirectory
  | nameTooLong
  | invalidName
  | notText
  | tooShort
  | checksum
  | incomplete
  | corrupt
deriving DecidableEq

namespace FileError

def message : FileError → String
  | notFound => "No such file or directory (os error 2)"
  | alreadyExists => "File exists (os error 17)"
  | notDirectory => "Not a directory (os error 20)"
  | isDirectory => "Is a directory (os error 21)"
  | nameTooLong => "File name too long (os error 36)"
  | invalidName => "file name contained an unexpected NUL byte"
  | notText => "stream did not contain valid UTF-8"
  | tooShort => "failed to fill whole buffer"
  | checksum => "Invalid checksum"
  | incomplete => "incomplete deflate stream"
  | corrupt => "corrupt deflate stream"

end FileError
end ClassAtlas
