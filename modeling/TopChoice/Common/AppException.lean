/-
# The exception feature code throws

`apps/api-core/src/common/errors/app.exception.ts` and `error-codes.ts`: an
HTTP status, a stable code, a message and the details of the fields at fault.
Only the codes the modelled services raise are listed.
-/

namespace TopChoice

/-- `ERROR_CODES`, the codes raised by the modelled services. -/
inductive ErrorCode where
  | badRequest
  | unauthorized
  | forbidden
  | databaseError
  | duplicateResource
  | relatedResourceNotFound
  | accountDisabled
  | tokenExpired
  | invalidToken
  | passwordResetInvalid
  | refreshTokenMissing
  | refreshTokenReused
  | insufficientRole
  | propertyNotFound
  | compoundNotFound
  | userNotFound
  | leadNotFound
  | savedSearchNotFound
  deriving DecidableEq, Repr

/-- `ApiErrorDetail`. -/
structure ApiErrorDetail where
  field : Option String
  message : String
  rule : Option String
  deriving DecidableEq, Repr

/-- `AppException`: the status and the `code` / `message` / `details` triple. -/
structure AppException where
  status : Nat
  code : ErrorCode
  message : String
  details : List ApiErrorDetail
  deriving DecidableEq, Repr

namespace AppException

/-- `AppException.badRequest`. -/
def badRequest (message : String) (code : ErrorCode) : AppException := ⟨400, code, message, []⟩

/-- `AppException.unauthorized`. -/
def unauthorized (message : String) (code : ErrorCode) : AppException := ⟨401, code, message, []⟩

/-- `AppException.forbidden`. -/
def forbidden (message : String) (code : ErrorCode) : AppException := ⟨403, code, message, []⟩

/-- `AppException.notFound`. -/
def notFound (message : String) (code : ErrorCode) : AppException := ⟨404, code, message, []⟩

/-- `AppException.conflict`. -/
def conflict (message : String) (code : ErrorCode) : AppException := ⟨409, code, message, []⟩

/-- `AppException.internal`. -/
def internal (message : String) (code : ErrorCode) : AppException := ⟨500, code, message, []⟩

end AppException

end TopChoice
