import Backoffice.Text.Basic

/-!
# Severity

How severe a failure is, from worst to least, and the sign that stands before its
message on the console.
-/

namespace Backoffice

/-- How severe a failure is. -/
inductive Severity where
  | critical
  | high
  | medium
  | low
  deriving DecidableEq, Repr

/-- The name of a severity. -/
def Severity.name : Severity → Text
  | .critical => "Critical"
  | .high => "High"
  | .medium => "Medium"
  | .low => "Low"

/-- The sign of a severity. -/
def Severity.emoji : Severity → Text
  | .critical => "🚨"
  | .high => "❌"
  | .medium => "⚠️"
  | .low => "ℹ️"

end Backoffice
