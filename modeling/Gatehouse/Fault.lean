import Gatehouse.Password.Scheme
import Gatehouse.Validation.Report

/-!
# Faults

Everything that a part of the service can fail with, and its wording.  Faults of the caller say
what the caller did wrong; faults of the service carry a detail for its operators.
-/

namespace Gatehouse

set_option autoImplicit false

/-- Why a file cannot be used. -/
inductive FileFault where
  /-- There is no such file. -/
  | notFound
  /-- The file does not hold text. -/
  | invalidData
  /-- A part of the path that should be a directory is not one. -/
  | notADirectory
  /-- The path names a directory. -/
  | isADirectory
  /-- Anything else. -/
  | other (detail : String)
  deriving DecidableEq, Repr

/-- The wording of a file fault. -/
def FileFault.message : FileFault → String
  | .notFound => "no such file or directory"
  | .invalidData => "stream did not contain valid UTF-8"
  | .notADirectory => "not a directory"
  | .isADirectory => "is a directory"
  | .other detail => detail

/-- Why a call fails. -/
inductive Fault where
  /-- What was handed in breaks rules. -/
  | validation (report : Validation.Report)
  /-- The value of a field is taken. -/
  | conflict (field : String) (message : String)
  /-- There is nothing under the name, the credentials or the token given. -/
  | notFound
  /-- The caller is not known. -/
  | unauthenticated
  /-- The caller may not do this. -/
  | permission (message : String)
  /-- Storage failed. -/
  | storage (detail : String)
  /-- The random source failed. -/
  | entropy (detail : String)
  /-- Hashing a password failed. -/
  | hashing (detail : String)
  /-- Mail could not be prepared or delivered. -/
  | mail (detail : String)
  /-- A file could not be used. -/
  | file (fault : FileFault)
  /-- The configuration is not usable. -/
  | configuration (detail : String)

namespace Fault

/-- The wording of a fault. -/
def message : Fault → String
  | .validation report => "validation failed: " ++ report.text
  | .conflict field message => field ++ ": " ++ message
  | .notFound => "invalid authentication credentials"
  | .unauthenticated => "authentication required"
  | .permission message => "permission denied: " ++ message
  | .storage detail => "database error: " ++ detail
  | .entropy detail => "entropy source failure: " ++ detail
  | .hashing detail => "password hashing failure: " ++ detail
  | .mail detail => "mail error: " ++ detail
  | .file fault => "I/O error: " ++ fault.message
  | .configuration detail => "configuration error: " ++ detail

/-- The fault of a single field. -/
def ofField (field message : String) : Fault :=
  .validation (Validation.Report.empty.add field message)

/-- The fault with which hashing or checking a password fails. -/
def ofPasswordFault : PasswordFault → Fault
  | .policy => ofField "password" PasswordFault.policy.message
  | fault => .hashing fault.message

end Fault

end Gatehouse
