/-!
# Why a file cannot be read

The causes that reading a key file can fail with, and their words.
-/

namespace MountKeys

/-- A cause for which a file cannot be read. -/
inductive FileFault
  | notFound
  | notADirectory
  | nameTooLong
  | tooManyLinks
  /-- The path holds the byte zero. -/
  | zeroByte
  /-- The path names something other than a regular file. -/
  | notRegular
  /-- Any other cause, in the system's words. -/
  | other (text : String)
  deriving DecidableEq, Repr

/-- The cause in words. -/
def FileFault.message : FileFault → String
  | .notFound => "No such file or directory (os error 2)"
  | .notADirectory => "Not a directory (os error 20)"
  | .nameTooLong => "File name too long (os error 36)"
  | .tooManyLinks => "Too many levels of symbolic links (os error 40)"
  | .zeroByte => "file name contained an unexpected NUL byte"
  | .notRegular => "not a regular file"
  | .other text => text

end MountKeys
