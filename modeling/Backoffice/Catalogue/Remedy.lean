import Backoffice.Text.Basic

/-!
# Remedies

What a user can do about an error: a stable code and one fixed sentence each.
-/

namespace Backoffice

/-- Something a user can do about an error. -/
inductive Remedy where
  | setEnvVar
  | checkDatabase
  | checkRequestBody
  | useIsoDate
  | loginAgain
  | contactAdmin
  | checkId
  | renewQualification
  | retryLater
  | reportIssue
  deriving DecidableEq, Repr

namespace Remedy

/-- The remedies in the order of the catalogue. -/
def all : List Remedy :=
  [.setEnvVar, .checkDatabase, .checkRequestBody, .useIsoDate, .loginAgain, .contactAdmin,
   .checkId, .renewQualification, .retryLater, .reportIssue]

/-- The name of a remedy in the catalogue. -/
def name : Remedy → Text
  | .setEnvVar => "SetEnvVar"
  | .checkDatabase => "CheckDatabase"
  | .checkRequestBody => "CheckRequestBody"
  | .useIsoDate => "UseIsoDate"
  | .loginAgain => "LoginAgain"
  | .contactAdmin => "ContactAdmin"
  | .checkId => "CheckId"
  | .renewQualification => "RenewQualification"
  | .retryLater => "RetryLater"
  | .reportIssue => "ReportIssue"

/-- The stable code of a remedy. -/
def code : Remedy → Text
  | .setEnvVar => "set_env_var"
  | .checkDatabase => "check_database"
  | .checkRequestBody => "check_request_body"
  | .useIsoDate => "use_iso_date"
  | .loginAgain => "login_again"
  | .contactAdmin => "contact_admin"
  | .checkId => "check_id"
  | .renewQualification => "renew_qualification"
  | .retryLater => "retry_later"
  | .reportIssue => "report_issue"

/-- The sentence of a remedy. -/
def text : Remedy → Text
  | .setEnvVar => "Set the required environment variable and restart the service."
  | .checkDatabase =>
    "Check that the database is running and the connection settings are correct."
  | .checkRequestBody => "Check the request body against the API documentation and try again."
  | .useIsoDate => "Use dates in YYYY-MM-DD format, for example 2024-03-05."
  | .loginAgain => "Log in again to obtain a new token."
  | .contactAdmin => "Contact an administrator to request access."
  | .checkId => "Check that the id exists and try again."
  | .renewQualification => "Renew the qualification before assigning it."
  | .retryLater => "Wait a moment and try the request again."
  | .reportIssue => "Report this issue to the support team with the request details."

/-- The remedy with a code, if there is one. -/
def ofCode? (code : Text) : Option Remedy :=
  all.find? fun r => r.code = code

end Remedy

end Backoffice
