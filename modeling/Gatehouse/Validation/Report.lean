import Gatehouse.Text.Dictionary

/-!
# Validation reports

A report collects, for each field of a form, the message of the first rule that the field broke.
Rules are checked in any order across fields; a later message for a field that already has one is
dropped.  A report is acceptable when it is empty.
-/

namespace Gatehouse.Validation

set_option autoImplicit false

/-- The first message of each field that broke a rule. -/
structure Report where
  messages : Text.Dictionary

namespace Report

/-- The report of a form that broke no rule. -/
def empty : Report := ⟨.empty⟩

/-- Whether no rule was broken. -/
def isAcceptable (report : Report) : Bool :=
  report.messages.isEmpty

/-- Notes that a field broke a rule; only the first note of a field counts. -/
def add (report : Report) (field message : String) : Report :=
  ⟨report.messages.insertNew field message⟩

/-- Notes that a field broke a rule unless it kept it. -/
def check (report : Report) (isKept : Bool) (field message : String) : Report :=
  if isKept then report else report.add field message

/-- The message of a field. -/
def get? (report : Report) (field : String) : Option String :=
  report.messages.get? field

/-- The number of fields that broke a rule. -/
def size (report : Report) : Nat :=
  report.messages.size

/-- One field and its message. -/
def entryText (entry : String × String) : String :=
  entry.1 ++ " " ++ entry.2

/-- The fields with their messages, in order. -/
def text (report : Report) : String :=
  "; ".intercalate (report.messages.entries.map entryText)

/-- The message of a field after one more note. -/
theorem get?_add (report : Report) (field message other : String) :
    (report.add field message).get? other =
      if other = field then some ((report.get? field).getD message) else report.get? other :=
  report.messages.get?_insertNew field message other

end Report

end Gatehouse.Validation
