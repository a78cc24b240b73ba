/-
# Files

A file is read as a whole, as text. Where there is something else than a file, such as a directory,
nothing can be read, and yet that is told apart from a file that cannot be opened: who can do
without the file does without it in the first case only (`Files.contents?`).
-/

namespace TokenAuthority

/-- Why a file cannot be read. -/
inductive FileError where
  /-- There is nothing. -/
  | missing
  /-- There is something else, such as a directory. -/
  | irregular (detail : String)
  /-- There is one, and it cannot be opened. -/
  | unreadable (detail : String)
deriving DecidableEq, Repr

/-- The message of an error. -/
def FileError.message : FileError → String
  | missing => "No such file or directory"
  | irregular detail => detail
  | unreadable detail => detail

/-- Reads files as text. -/
abbrev Files (m : Type → Type) := String → m (Except FileError String)

namespace Files

variable {m : Type → Type} [Monad m]

/-- The path of a file in a directory. -/
def inDirectory (directory file : String) : String :=
  if directory = "" || directory.toList.getLast? = some '/' then directory ++ file
  else directory ++ "/" ++ file

/-- The contents of a file in a directory, if there are both. A file that cannot be opened is an
error. -/
def contents? (files : Files m) (directory : Option String) (file : String) :
    ExceptT String m (Option String) :=
  match directory with
  | none => return none
  | some directory => .mk do
    let path := inDirectory directory file
    match ← files path with
    | .ok text => return .ok (some text)
    | .error (.unreadable detail) => return .error (path ++ ": " ++ detail)
    | .error .missing => return .ok none
    | .error (.irregular _) => return .ok none

end Files
end TokenAuthority
