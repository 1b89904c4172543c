/-!
# Failed reading

Why the text of a request cannot be had, in the words and with the numbers that operating systems
use for it.
-/

namespace EntitySearch

/-- Why the text of a request cannot be had. -/
inductive ReadFailure where
  /-- There is no such file. -/
  | notFound
  /-- The file may not be read. -/
  | denied
  /-- A name is looked up in a file. -/
  | notDirectory
  /-- It is a directory. -/
  | directory
  /-- The path or one of its names is too long. -/
  | nameTooLong
  /-- The path has a zero character, which ends every path. -/
  | zeroInPath
  /-- The content is not UTF-8. -/
  | notUtf8
  /-- Something else. -/
  | other (description : String)
  deriving DecidableEq, Repr

namespace ReadFailure

/-- The cause in words. -/
def message : ReadFailure → String
  | notFound => "No such file or directory (os error 2)"
  | denied => "Permission denied (os error 13)"
  | notDirectory => "Not a directory (os error 20)"
  | directory => "Is a directory (os error 21)"
  | nameTooLong => "File name too long (os error 36)"
  | zeroInPath => "file name contained an unexpected NUL byte"
  | notUtf8 => "stream did not contain valid UTF-8"
  | other description => description

/-- The failure with a number of the operating system. -/
def ofCode? : Nat → Option ReadFailure
  | 2 => some notFound
  | 13 => some denied
  | 20 => some notDirectory
  | 21 => some directory
  | 36 => some nameTooLong
  | _ => none

/-- What could not be read. -/
def subject (request : String) : String :=
  if request = "-" then "Failed to read request from stdin"
  else "Failed to read request file " ++ request

end ReadFailure

end EntitySearch
