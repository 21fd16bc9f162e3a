/-!
# Why a file cannot be used

The causes that can arise when a file is opened, read or appended to, and the text under which
each is reported.  Causes that the operating system reports carry its number for them.
-/

namespace LifecycleGuard

/-- Why a file cannot be opened, read or written. -/
inductive FileError where
  /-- There is no such file, or a directory on the way to it is missing. -/
  | missing
  /-- The path names a directory. -/
  | directory
  /-- Something on the way to the file is not a directory. -/
  | notDirectory
  /-- A name on the path has more than 255 bytes, or the path has more than 4095. -/
  | nameTooLong
  /-- The path contains the character NUL. -/
  | nulInName
  /-- The bytes of the file are not text. -/
  | notText
  /-- A failure that another medium reports in its own words. -/
  | other (text : String)
deriving DecidableEq

namespace FileError

/-- What is wrong. -/
def description : FileError → String
  | missing => "No such file or directory (os error 2)"
  | directory => "Is a directory (os error 21)"
  | notDirectory => "Not a directory (os error 20)"
  | nameTooLong => "File name too long (os error 36)"
  | nulInName => "file name contained an unexpected NUL byte"
  | notText => "stream did not contain valid UTF-8"
  | other text => text

/-- What is wrong, with the heading for failures of files. -/
def message (e : FileError) : String := "IO error: " ++ e.description

end FileError

end LifecycleGuard
