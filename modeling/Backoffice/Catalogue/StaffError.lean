import Backoffice.Catalogue.Remedy
import Backoffice.Catalogue.Severity

/-!
# Errors of the staff service

The closed list of errors that every handler of the service reports. Each has a
stable code and one fixed message, is more or less severe, and most have a remedy.

* `StaffError.all`: the errors in the order of the catalogue;
* `StaffError.ofCode?`: the error with a code.
-/

namespace Backoffice

/-- An error of the staff service. -/
inductive StaffError where
  | missingEnvVar
  | invalidEnvVar
  | databaseConnection
  | databaseQuery
  | recordNotFound
  | duplicateRecord
  | transactionFailed
  | invalidRequestBody
  | missingRequiredField
  | invalidId
  | invalidDate
  | invalidDateRange
  | invalidEmail
  | invalidPhoneNumber
  | invalidPagination
  | unauthorized
  | forbidden
  | missingToken
  | invalidToken
  | expiredToken
  | invalidCredentials
  | accountDisabled
  | policyNotFound
  | policyLoadFailed
  | staffNotFound
  | staffAlreadyExists
  | staffInactive
  | invalidStaffRole
  | departmentNotFound
  | positionNotFound
  | qualificationNotFound
  | qualificationExpired
  | duplicateQualification
  | invalidQualificationType
  | shiftNotFound
  | shiftConflict
  | leaveRequestNotFound
  | insufficientLeaveBalance
  | invalidLeaveStatus
  | contractNotFound
  | contractExpired
  | internalServer
  | serviceUnavailable
  | rateLimited
  | notImplemented
  deriving DecidableEq, Repr

namespace StaffError

/-- The errors in the order of the catalogue. -/
def all : List StaffError :=
  [.missingEnvVar, .invalidEnvVar, .databaseConnection, .databaseQuery, .recordNotFound,
   .duplicateRecord, .transactionFailed, .invalidRequestBody, .missingRequiredField, .invalidId,
   .invalidDate, .invalidDateRange, .invalidEmail, .invalidPhoneNumber, .invalidPagination,
   .unauthorized, .forbidden, .missingToken, .invalidToken, .expiredToken, .invalidCredentials,
   .accountDisabled, .policyNotFound, .policyLoadFailed, .staffNotFound, .staffAlreadyExists,
   .staffInactive, .invalidStaffRole, .departmentNotFound, .positionNotFound,
   .qualificationNotFound, .qualificationExpired, .duplicateQualification,
   .invalidQualificationType, .shiftNotFound, .shiftConflict, .leaveRequestNotFound,
   .insufficientLeaveBalance, .invalidLeaveStatus, .contractNotFound, .contractExpired,
   .internalServer, .serviceUnavailable, .rateLimited, .notImplemented]

/-- The name of an error in the catalogue. -/
def name : StaffError → Text
  | .missingEnvVar => "MissingEnvVar"
  | .invalidEnvVar => "InvalidEnvVar"
  | .databaseConnection => "DatabaseConnection"
  | .databaseQuery => "DatabaseQuery"
  | .recordNotFound => "RecordNotFound"
  | .duplicateRecord => "DuplicateRecord"
  | .transactionFailed => "TransactionFailed"
  | .invalidRequestBody => "InvalidRequestBody"
  | .missingRequiredField => "MissingRequiredField"
  | .invalidId => "InvalidId"
  | .invalidDate => "InvalidDate"
  | .invalidDateRange => "InvalidDateRange"
  | .invalidEmail => "InvalidEmail"
  | .invalidPhoneNumber => "InvalidPhoneNumber"
  | .invalidPagination => "InvalidPagination"
  | .unauthorized => "Unauthorized"
  | .forbidden => "Forbidden"
  | .missingToken => "MissingToken"
  | .invalidToken => "InvalidToken"
  | .expiredToken => "ExpiredToken"
  | .invalidCredentials => "InvalidCredentials"
  | .accountDisabled => "AccountDisabled"
  | .policyNotFound => "PolicyNotFound"
  | .policyLoadFailed => "PolicyLoadFailed"
  | .staffNotFound => "StaffNotFound"
  | .staffAlreadyExists => "StaffAlreadyExists"
  | .staffInactive => "StaffInactive"
  | .invalidStaffRole => "InvalidStaffRole"
  | .departmentNotFound => "DepartmentNotFound"
  | .positionNotFound => "PositionNotFound"
  | .qualificationNotFound => "QualificationNotFound"
  | .qualificationExpired => "QualificationExpired"
  | .duplicateQualification => "DuplicateQualification"
  | .invalidQualificationType => "InvalidQualificationType"
  | .shiftNotFound => "ShiftNotFound"
  | .shiftConflict => "ShiftConflict"
  | .leaveRequestNotFound => "LeaveRequestNotFound"
  | .insufficientLeaveBalance => "InsufficientLeaveBalance"
  | .invalidLeaveStatus => "InvalidLeaveStatus"
  | .contractNotFound => "ContractNotFound"
  | .contractExpired => "ContractExpired"
  | .internalServer => "InternalServer"
  | .serviceUnavailable => "ServiceUnavailable"
  | .rateLimited => "RateLimited"
  | .notImplemented => "NotImplemented"

/-- The stable code of an error. -/
def code : StaffError → Text
  | .missingEnvVar => "missing_env_var"
  | .invalidEnvVar => "invalid_env_var"
  | .databaseConnection => "database_connection"
  | .databaseQuery => "database_query"
  | .recordNotFound => "record_not_found"
  | .duplicateRecord => "duplicate_record"
  | .transactionFailed => "transaction_failed"
  | .invalidRequestBody => "invalid_request_body"
  | .missingRequiredField => "missing_required_field"
  | .invalidId => "invalid_id"
  | .invalidDate => "invalid_date"
  | .invalidDateRange => "invalid_date_range"
  | .invalidEmail => "invalid_email"
  | .invalidPhoneNumber => "invalid_phone_number"
  | .invalidPagination => "invalid_pagination"
  | .unauthorized => "unauthorized"
  | .forbidden => "forbidden"
  | .missingToken => "missing_token"
  | .invalidToken => "invalid_token"
  | .expiredToken => "expired_token"
  | .invalidCredentials => "invalid_credentials"
  | .accountDisabled => "account_disabled"
  | .policyNotFound => "policy_not_found"
  | .policyLoadFailed => "policy_load_failed"
  | .staffNotFound => "staff_not_found"
  | .staffAlreadyExists => "staff_already_exists"
  | .staffInactive => "staff_inactive"
  | .invalidStaffRole => "invalid_staff_role"
  | .departmentNotFound => "department_not_found"
  | .positionNotFound => "position_not_found"
  | .qualificationNotFound => "qualification_not_found"
  | .qualificationExpired => "qualification_expired"
  | .duplicateQualification => "duplicate_qualification"
  | .invalidQualificationType => "invalid_qualification_type"
  | .shiftNotFound => "shift_not_found"
  | .shiftConflict => "shift_conflict"
  | .leaveRequestNotFound => "leave_request_not_found"
  | .insufficientLeaveBalance => "insufficient_leave_balance"
  | .invalidLeaveStatus => "invalid_leave_status"
  | .contractNotFound => "contract_not_found"
  | .contractExpired => "contract_expired"
  | .internalServer => "internal_server"
  | .serviceUnavailable => "service_unavailable"
  | .rateLimited => "rate_limited"
  | .notImplemented => "not_implemented"

/-- The fixed message of an error. -/
def message : StaffError → Text
  | .missingEnvVar => "environment variable is not set"
  | .invalidEnvVar => "environment variable has an invalid value"
  | .databaseConnection => "could not connect to the database"
  | .databaseQuery => "database query failed"
  | .recordNotFound => "record not found"
  | .duplicateRecord => "record already exists"
  | .transactionFailed => "database transaction failed"
  | .invalidRequestBody => "request body is invalid"
  | .missingRequiredField => "a required field is missing"
  | .invalidId => "id must be a positive integer"
  | .invalidDate => "date must be in YYYY-MM-DD format"
  | .invalidDateRange => "start date must not be after end date"
  | .invalidEmail => "email address is invalid"
  | .invalidPhoneNumber => "phone number is invalid"
  | .invalidPagination => "page and limit must be positive integers"
  | .unauthorized => "authentication required"
  | .forbidden => "you do not have permission to perform this action"
  | .missingToken => "authorization token is missing"
  | .invalidToken => "authorization token is invalid"
  | .expiredToken => "authorization token has expired"
  | .invalidCredentials => "invalid username or password"
  | .accountDisabled => "account is disabled"
  | .policyNotFound => "no policy matches the requested path"
  | .policyLoadFailed => "failed to load authorization policies"
  | .staffNotFound => "staff member not found"
  | .staffAlreadyExists => "staff member already exists"
  | .staffInactive => "staff member is inactive"
  | .invalidStaffRole => "staff role is invalid"
  | .departmentNotFound => "department not found"
  | .positionNotFound => "position not found"
  | .qualificationNotFound => "qualification not found"
  | .qualificationExpired => "qualification has expired"
  | .duplicateQualification => "qualification is already assigned to this staff member"
  | .invalidQualificationType => "qualification type is invalid"
  | .shiftNotFound => "shift not found"
  | .shiftConflict => "shift overlaps an existing shift"
  | .leaveRequestNotFound => "leave request not found"
  | .insufficientLeaveBalance => "insufficient leave balance"
  | .invalidLeaveStatus => "leave request status is invalid"
  | .contractNotFound => "contract not found"
  | .contractExpired => "contract has expired"
  | .internalServer => "internal server error"
  | .serviceUnavailable => "service is temporarily unavailable"
  | .rateLimited => "too many requests"
  | .notImplemented => "not implemented"

/-- The error with a code, if there is one. -/
def ofCode? (code : Text) : Option StaffError :=
  all.find? fun e => e.code = code

/-- What can be done about an error, if anything. -/
def remedy? : StaffError → Option Remedy
  | .missingEnvVar | .invalidEnvVar => some .setEnvVar
  | .databaseConnection | .databaseQuery | .transactionFailed => some .checkDatabase
  | .invalidRequestBody | .missingRequiredField | .invalidEmail | .invalidPhoneNumber |
    .invalidPagination | .invalidStaffRole | .invalidQualificationType | .invalidLeaveStatus =>
    some .checkRequestBody
  | .invalidDate | .invalidDateRange => some .useIsoDate
  | .unauthorized | .missingToken | .invalidToken | .expiredToken | .invalidCredentials =>
    some .loginAgain
  | .forbidden | .accountDisabled | .policyNotFound => some .contactAdmin
  | .invalidId | .recordNotFound | .staffNotFound | .departmentNotFound | .positionNotFound |
    .qualificationNotFound | .shiftNotFound | .leaveRequestNotFound | .contractNotFound =>
    some .checkId
  | .qualificationExpired => some .renewQualification
  | .serviceUnavailable | .rateLimited => some .retryLater
  | .internalServer | .policyLoadFailed => some .reportIssue
  | .duplicateRecord | .staffAlreadyExists | .staffInactive | .duplicateQualification |
    .shiftConflict | .insufficientLeaveBalance | .contractExpired | .notImplemented => none

/-- How severe an error is. -/
def severity : StaffError → Severity
  | .missingEnvVar | .invalidEnvVar | .databaseConnection | .policyLoadFailed | .internalServer =>
    .critical
  | .databaseQuery | .transactionFailed | .unauthorized | .forbidden | .missingToken |
    .invalidToken | .expiredToken | .invalidCredentials | .accountDisabled | .serviceUnavailable =>
    .high
  | .notImplemented | .rateLimited => .low
  | _ => .medium

end StaffError

end Backoffice
