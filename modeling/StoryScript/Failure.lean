/-
# `StoryScript.Failure` — what can go wrong, and how it is told

A failure is kept as its cause, and its wording is one function on it.  An
input or output failure names the path it happened on and has a cause of its
own, whose text is told twice: once inside the failure's message, and once
more as the next link of the chain that the command line prints.
-/
import StoryScript.Path

namespace StoryScript

/-- Why a file could not be opened, read, made or written. -/
inductive IoCause where
  | noSuchFile
  | fileExists
  | notDirectory
  | isDirectory
  | nameTooLong
  | nulInName
  | invalidUtf8
  | other (text : Text)
deriving DecidableEq, Repr

/-- The wording of a cause, with the system's number where it has one. -/
def IoCause.message : IoCause → Text
  | .noSuchFile => "No such file or directory (os error 2)".toList
  | .fileExists => "File exists (os error 17)".toList
  | .notDirectory => "Not a directory (os error 20)".toList
  | .isDirectory => "Is a directory (os error 21)".toList
  | .nameTooLong => "File name too long (os error 36)".toList
  | .nulInName => "file name contained an unexpected NUL byte".toList
  | .invalidUtf8 => "stream did not contain valid UTF-8".toList
  | .other text => text

/-- A failed input or output operation, on the path it is blamed on. -/
structure IoFailure where
  path : Path
  cause : IoCause
deriving DecidableEq, Repr

/-- Why a compilation fails. -/
inductive Failure where
  /-- No heading starts the script; carries the heading that was looked for. -/
  | missingEntryPoint (keyword : Text)
  /-- Two headings of the script make the same scene name. -/
  | duplicateScene (name : Text)
  /-- The script could not be read, or a file could not be written. -/
  | io (failure : IoFailure)
  /-- A template could not be rendered. -/
  | template (name cause : Text)
deriving DecidableEq, Repr

namespace Failure

/-- The text of the failure's own cause, if it has one. -/
def cause? : Failure → Option Text
  | .io f => some f.cause.message
  | .template _ cause => some cause
  | _ => none

/-- What happened, in one line. -/
def message : Failure → Text
  | .missingEntryPoint keyword =>
    "Failed to find entry point; make sure a '# ".toList ++ keyword ++ "' heading exists".toList
  | .duplicateScene name => "Scene ".toList ++ name ++ " is already defined".toList
  | .io f => "I/O error on '".toList ++ f.path.text ++ "': ".toList ++ f.cause.message
  | .template name cause => "Failed to render template '".toList ++ name ++ "': ".toList ++ cause

/-- The message, and after it the cause once more. -/
def chain (f : Failure) : Text :=
  match f.cause? with
  | some cause => f.message ++ ": ".toList ++ cause
  | none => f.message

end Failure

end StoryScript
