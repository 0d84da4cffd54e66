/-!
# The host system

What the library asks of the system on which it runs: the values of environment variables, the
contents of files, which paths are those of regular files, and where the user keeps settings.  All
of it is given from outside, so that whoever calls the library decides which system it sees.
-/

namespace Provenance

/-- Why a file cannot be read. -/
inductive FileError where
  | missing
  | accessDenied
  | notADirectory
  | isADirectory
  | nameTooLong
  /-- The content of the file is no text. -/
  | notText
  /-- The system reports something else. -/
  | other (message : String)
  deriving Repr, DecidableEq

namespace FileError

/-- The wording of an error. -/
def message : FileError → String
  | missing => "No such file or directory (os error 2)"
  | accessDenied => "Permission denied (os error 13)"
  | notADirectory => "Not a directory (os error 20)"
  | isADirectory => "Is a directory (os error 21)"
  | nameTooLong => "File name too long (os error 36)"
  | notText => "stream did not contain valid UTF-8"
  | other message => message

/-- Whether a file is there although it cannot be read. -/
def isOfFile : FileError → Bool
  | accessDenied => true
  | notText => true
  | _ => false

end FileError

/-- A system with its environment and its files. -/
structure Host where
  environment : String → Option String
  read : String → Except FileError String
  /-- Whether a regular file stands at a path, be it readable or not. -/
  hasFile : String → Bool
  /-- The directory of the user's settings, if the system knows one. -/
  settingsDirectory? : Option String

namespace Host

/-- The variable that names the directory of the user's settings. -/
def settingsVariable : String := "XDG_CONFIG_HOME"

/-- The variable that names the user's home directory. -/
def homeVariable : String := "HOME"

/-- The directory of the user's settings by the environment: an absolute path that it gives, or else
the one in the home directory. -/
def settingsDirectoryIn (environment : String → Option String) : Option String :=
  match (environment settingsVariable).filter (·.toList.head? == some '/') with
  | some directory => some directory
  | none => ((environment homeVariable).filter (!·.isEmpty)).map (· ++ "/.config")

/-- The system of which nothing is known but its environment and what comes of reading its files. -/
def observed (environment : String → Option String) (read : String → Except FileError String) :
    Host where
  environment := environment
  read := read
  hasFile path :=
    match read path with
    | .ok _ => true
    | .error e => e.isOfFile
  settingsDirectory? := settingsDirectoryIn environment

end Host

end Provenance
