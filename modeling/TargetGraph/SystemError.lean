set_option relaxedAutoImplicit false
set_option autoImplicit false

/-!
# System errors

## Main definitions

* `TargetGraph.SystemError`, `TargetGraph.SystemError.message` — why a file or program cannot be
  used, and how the system words it.
-/

namespace TargetGraph

/-- Why a file or program cannot be used. -/
inductive SystemError where
  /-- There is nothing of this name. -/
  | notFound
  /-- Its use is not permitted. -/
  | denied
  /-- The program has no form that can be run. -/
  | notExecutable
  /-- Something on the way to it is no directory. -/
  | notDirectory
  /-- It is a directory. -/
  | isDirectory
  /-- A name is too long. -/
  | nameTooLong
  /-- There is a zero byte in a name or an argument. -/
  | zeroByte
  deriving DecidableEq, Repr

namespace SystemError

/-- The system's words for an error. -/
def phrase : SystemError → String
  | .notFound => "No such file or directory"
  | .denied => "Permission denied"
  | .notExecutable => "Exec format error"
  | .notDirectory => "Not a directory"
  | .isDirectory => "Is a directory"
  | .nameTooLong => "File name too long"
  | .zeroByte => "nul byte found in provided data"

/-- The system's number for an error, unless it is noticed before the system is asked. -/
def number? : SystemError → Option Nat
  | .notFound => some 2
  | .denied => some 13
  | .notExecutable => some 8
  | .notDirectory => some 20
  | .isDirectory => some 21
  | .nameTooLong => some 36
  | .zeroByte => none

/-- The wording of an error. -/
def message (e : SystemError) : String :=
  match e.number? with
  | some number => e.phrase ++ " (os error " ++ toString number ++ ")"
  | none => e.phrase

end SystemError

end TargetGraph
