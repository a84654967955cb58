import Backoffice.Text.Basic

/-!
# The console log

A record has a level and a message. The console shows the records up to a level
that depends on whether the user wants to hear everything, one line each behind a
word for the level.

The library itself only reports, at the debug level, where it falls back on
something. `Logged` is a result together with these reports in order.
-/

namespace Backoffice

/-- The levels of a log, from the most urgent one. -/
inductive Level where
  | error
  | warning
  | info
  | debug
  | trace
  deriving DecidableEq, Repr

/-- The place of a level in the order. -/
def Level.rank : Level → Nat
  | .error => 1
  | .warning => 2
  | .info => 3
  | .debug => 4
  | .trace => 5

/-- The name of a level. -/
def Level.name : Level → Text
  | .error => "ERROR"
  | .warning => "WARN"
  | .info => "INFO"
  | .debug => "DEBUG"
  | .trace => "TRACE"

/-- The word before a message of a level. -/
def Level.label : Level → Text
  | .error => "Error"
  | .warning => "Warning"
  | .info => "Info"
  | .debug | .trace => "Verbose"

/-- The last level that is shown. -/
def Level.shown (verbose : Bool) : Level :=
  if verbose then .debug else .warning

/-- A record of the log. -/
structure Record where
  level : Level
  message : Text
  deriving DecidableEq, Repr

/-- The line of a record, if it is shown. -/
def Record.line (limit : Level) (r : Record) : Text :=
  if r.level.rank ≤ limit.rank then r.level.label ++ ": " ++ r.message ++ "\n" else []

/-- What the console shows of some records. -/
def console (limit : Level) (rs : List Record) : Text :=
  rs.flatMap (Record.line limit)

/-- A result, and what was reported on the way to it. -/
structure Logged (α : Type) where
  value : α
  reports : List Text

namespace Logged

variable {α β : Type}

/-- A result without a report. -/
def quiet (a : α) : Logged α :=
  ⟨a, []⟩

/-- A report and nothing else. -/
def report (message : Text) : Logged Unit :=
  ⟨(), [message]⟩

/-- What follows reports after what comes first. -/
def andThen (x : Logged α) (f : α → Logged β) : Logged β :=
  ⟨(f x.value).value, x.reports ++ (f x.value).reports⟩

instance : Monad Logged where
  pure := quiet
  bind := andThen

@[simp]
theorem value_pure (a : α) : (pure a : Logged α).value = a := rfl

@[simp]
theorem reports_pure (a : α) : (pure a : Logged α).reports = [] := rfl

@[simp]
theorem value_bind (x : Logged α) (f : α → Logged β) : (x >>= f).value = (f x.value).value := rfl

@[simp]
theorem reports_bind (x : Logged α) (f : α → Logged β) :
    (x >>= f).reports = x.reports ++ (f x.value).reports := rfl

@[simp]
theorem reports_report (message : Text) : (report message).reports = [message] := rfl

/-- The reports as records. -/
def records (x : Logged α) : List Record :=
  x.reports.map (Record.mk .debug)

end Logged

end Backoffice
