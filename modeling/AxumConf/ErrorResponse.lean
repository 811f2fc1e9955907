import AxumConf.Http

/-!
# Error responses

How an error becomes the response that a client sees.  The kind of the error decides about the
status, the code and whether the message is replaced by a generic text.  A database error that comes
out of a guarded call has been converted twice and carries the kind of the breaker's error, whose
messages are not replaced.
-/

namespace AxumConf

structure ErrorResponse where
  errorCode : String
  message : String
  details : Option String := none
  deriving DecidableEq, Repr

/-- The fields in the order of the structure; missing details are skipped. -/
def ErrorResponse.toJson (response : ErrorResponse) : Json :=
  .object ([("error_code", .string response.errorCode), ("message", .string response.message)] ++
    (response.details.map fun details => ("details", Json.string details)).toList)

namespace Error

variable (error : Error)

def errorCode : String :=
  match error.kind with
  | .database => "DATABASE_ERROR"
  | .authentication => "AUTH_ERROR"
  | .configuration => "CONFIG_ERROR"
  | .tls => "TLS_ERROR"
  | .io => "IO_ERROR"
  | .invalidInput => "INVALID_INPUT"
  | .circuitBreakerOpen => "CIRCUIT_BREAKER_OPEN"
  | .circuitBreakerFailed => "CIRCUIT_BREAKER_CALL_FAILED"
  | .internal => "INTERNAL_ERROR"

def statusCode : ℕ :=
  match error.kind with
  | .database => 503
  | .authentication => 401
  | .configuration => 500
  | .tls => 500
  | .io => 500
  | .invalidInput => 400
  | .circuitBreakerOpen => 503
  | .circuitBreakerFailed => 502
  | .internal => 500

/-- The message is meant for the caller; the others may embed query text or names of tables and
constraints. -/
def isClientSafe : Bool :=
  match error.kind with
  | .authentication | .invalidInput | .circuitBreakerOpen | .circuitBreakerFailed => true
  | .database | .configuration | .tls | .io | .internal => false

def toErrorResponse : ErrorResponse where
  errorCode := error.errorCode
  message := if error.isClientSafe then error.message else "An internal error occurred"

/-- The status and the body of the response. -/
def intoResponse : ℕ × Json :=
  (error.statusCode, error.toErrorResponse.toJson)

variable {error}

/-- Two errors of one kind look the same to a client exactly when their messages are replaced or
are the same. -/
theorem intoResponse_eq_iff {other : Error} (sameKind : other.kind = error.kind) :
    other.intoResponse = error.intoResponse ↔
      error.isClientSafe = false ∨ other.message = error.message := by
  have sameCode : other.errorCode = error.errorCode := by
    simp only [errorCode, sameKind]
  have sameStatus : other.statusCode = error.statusCode := by
    simp only [statusCode, sameKind]
  have sameClass : other.isClientSafe = error.isClientSafe := by
    simp only [isClientSafe, sameKind]
  simp only [intoResponse, toErrorResponse, ErrorResponse.toJson, sameCode, sameStatus, sameClass]
  cases error.isClientSafe with
  | false => simp
  | true => simp

end Error

inductive CircuitBreakerError (E : Type) where
  | circuitOpen (target : String)
  | callFailed (error : E)
  | timeout (duration : ℕ)
  deriving DecidableEq, Repr

section Conversions

variable {E : Type} (text : E → String) (durationText : ℕ → String)

def CircuitBreakerError.display : CircuitBreakerError E → String
  | .circuitOpen target => "Circuit breaker is open for target: " ++ target
  | .callFailed error => "Call failed: " ++ text error
  | .timeout duration => "Call timed out after " ++ durationText duration

def CircuitBreakerError.kind : CircuitBreakerError E → ErrorKind
  | .circuitOpen _ => .circuitBreakerOpen
  | .callFailed _ | .timeout _ => .circuitBreakerFailed

/-- `From<CircuitBreakerError<E>> for Error` -/
def CircuitBreakerError.toError (error : CircuitBreakerError E) : Error where
  kind := error.kind
  message := error.display text durationText

/-- `From<sqlx::Error> for Error` -/
def Error.ofSqlx (error : E) : Error where
  kind := .database
  message := text error

/-- What the client sees of a database error that a guarded call returned. -/
def guardedResponse (error : E) : ℕ × Json :=
  ((CircuitBreakerError.callFailed error).toError text durationText).intoResponse

def directResponse (error : E) : ℕ × Json :=
  (Error.ofSqlx text error).intoResponse

/-- The response to an error converted directly says nothing of the error. -/
theorem directResponse_eq (error other : E) :
    directResponse text error = directResponse text other :=
  (Error.intoResponse_eq_iff rfl).mpr (.inl rfl)

theorem append_left_cancel_iff {front first second : String} :
    front ++ first = front ++ second ↔ first = second := by
  constructor
  · intro same
    have lists := congrArg String.toList same
    rw [String.toList_append, String.toList_append, List.append_cancel_left_eq] at lists
    exact String.toList_inj.mp lists
  · exact congrArg (front ++ ·)

/-- The response to an error that a guarded call returned repeats the text of the error. -/
theorem guardedResponse_eq (first second : E) :
    guardedResponse text durationText first = guardedResponse text durationText second ↔
      text first = text second := by
  have sameKind : ((CircuitBreakerError.callFailed first).toError text durationText).kind =
      ((CircuitBreakerError.callFailed second).toError text durationText).kind := rfl
  refine (Error.intoResponse_eq_iff sameKind).trans ?_
  have shown : ((CircuitBreakerError.callFailed second).toError text durationText).isClientSafe =
      true := rfl
  simp only [shown, Bool.true_eq_false, false_or]
  exact append_left_cancel_iff

/-- Two database errors that were converted directly look the same to a client; two that went
through the breaker do exactly when their texts are the same. -/
theorem guardedResponse_eq_iff (first second : E) :
    directResponse text first = directResponse text second ∧
      (guardedResponse text durationText first = guardedResponse text durationText second ↔
        text first = text second) :=
  ⟨directResponse_eq text first second, guardedResponse_eq text durationText first second⟩

end Conversions

/-- Two of the database errors, with their texts. -/
inductive DatabaseError where
  | rowNotFound
  | database (message : String)

def DatabaseError.display : DatabaseError → String
  | rowNotFound => "no rows returned by a query that expected to return at least one row"
  | database message => "error returned from database: " ++ message

def duplicateEmail : DatabaseError :=
  .database "duplicate key value violates unique constraint \"users_email_key\""

/-- Whether a row is missing or a constraint of that name is violated shows in the response. -/
theorem guardedResponse_reveals :
    directResponse DatabaseError.display .rowNotFound =
        directResponse DatabaseError.display duplicateEmail ∧
      guardedResponse DatabaseError.display (fun _ => "") .rowNotFound ≠
        guardedResponse DatabaseError.display (fun _ => "") duplicateEmail := by
  refine ⟨directResponse_eq _ _ _, ?_⟩
  rw [ne_eq, guardedResponse_eq]
  decide +kernel

end AxumConf
