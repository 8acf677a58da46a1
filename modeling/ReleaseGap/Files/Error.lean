/-!
# Input and output failures

Why a file cannot be looked at, or a stream not be read or written.
-/

namespace ReleaseGap.Files

inductive IoError where
  | missing
  | notDirectory
  | isDirectory
  | nulInName
  | nameTooLong
  | linkLoop
  | denied
  | notUtf8
  /-- What else the system says. -/
  | other (text : String)
deriving DecidableEq, Repr

def IoError.message : IoError → String
  | .missing => "No such file or directory (os error 2)"
  | .notDirectory => "Not a directory (os error 20)"
  | .isDirectory => "Is a directory (os error 21)"
  | .nulInName => "file name contained an unexpected NUL byte"
  | .nameTooLong => "File name too long (os error 36)"
  | .linkLoop => "Too many levels of symbolic links (os error 40)"
  | .denied => "Permission denied (os error 13)"
  | .notUtf8 => "stream did not contain valid UTF-8"
  | .other text => text

end ReleaseGap.Files
