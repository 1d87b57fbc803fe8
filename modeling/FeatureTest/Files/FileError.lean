/-!
What a file system answers where it refuses.
-/
namespace FeatureTest

inductive FileError where
  | notFound
  | permissionDenied
  | notExecutable
  | alreadyExists
  | notDirectory
  | isDirectory
  | nameTooLong
  | noSpace
  /-- A path that holds the character that ends paths. -/
  | nulInPath
  /-- An argument that holds the character that ends arguments. -/
  | nulInArgument
  /-- Bytes that are no text, where a text was asked for. -/
  | notText
  deriving DecidableEq, Repr

namespace FileError

/-- A refusal with its number. -/
def numbered (text : String) (number : Nat) : String := s!"{text} (os error {number})"

def message : FileError → String
  | notFound => numbered "No such file or directory" 2
  | notExecutable => numbered "Exec format error" 8
  | permissionDenied => numbered "Permission denied" 13
  | alreadyExists => numbered "File exists" 17
  | notDirectory => numbered "Not a directory" 20
  | isDirectory => numbered "Is a directory" 21
  | noSpace => numbered "No space left on device" 28
  | nameTooLong => numbered "File name too long" 36
  | nulInPath => "file name contained an unexpected NUL byte"
  | nulInArgument => "nul byte found in provided data"
  | notText => "stream did not contain valid UTF-8"

end FileError
end FeatureTest
