import MemberOutline.Text.Basic

/-!
# The host of a run

What a run needs from outside is a record of functions in some monad: what has a name, the text of a
file, the text on standard input and the working directory. A run over a record of pure functions is
a pure function of what they answer.
-/

namespace MemberOutline

/-- Why a text cannot be had. -/
inductive Fault where
  /-- Nothing has this name. -/
  | notFound
  /-- The name leads through something that is no directory. -/
  | notDirectory
  /-- It is a directory. -/
  | isDirectory
  /-- The name or a part of it is too long. -/
  | nameTooLong
  /-- The name holds a null character. -/
  | nullInName
  /-- The bytes are no text. -/
  | notText
  /-- Anything else that the host says. -/
  | other (message : String)
  deriving DecidableEq, Repr

namespace Fault

/-- The message for a fault. -/
def message : Fault → String
  | .notFound => "No such file or directory (os error 2)"
  | .notDirectory => "Not a directory (os error 20)"
  | .isDirectory => "Is a directory (os error 21)"
  | .nameTooLong => "File name too long (os error 36)"
  | .nullInName => "file name contained an unexpected NUL byte"
  | .notText => "stream did not contain valid UTF-8"
  | .other message => message

end Fault

/-- What a run asks for. Each question is one of its own: a file may be there that cannot be read,
and whether a name leads anywhere is not told by reading it. -/
structure Host (m : Type → Type) where
  /-- Whether anything has a name. -/
  pathExists : String → m Bool
  /-- Whether a file has a name. -/
  isFile : String → m Bool
  /-- The text of the file with a name. -/
  readFile : String → m (Except Fault Text)
  /-- The text on standard input. -/
  readInput : m (Except Fault Text)
  /-- The name of the working directory. -/
  workingDirectory : m (Except Fault String)

/-- The name of an entry in a directory. -/
def joinPath (directory name : String) : String :=
  if directory = "" ∨ directory.toList.getLast? = some '/' then directory ++ name
  else directory ++ "/" ++ name

end MemberOutline
