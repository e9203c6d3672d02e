/-!
# Errors of a response transfer

A transfer fails on the client side, on the backend side, or on the backend side
after the client already received octets.  The session keeps this distinction when
it wraps the error: an error that blocks another response ends the request, and any
other error lets another backend be tried.
-/

namespace NntpProxy.Transport

/-- The kind of an I/O error, as far as it is looked at. -/
inductive IoErrorKind where
  | brokenPipe
  | connectionReset
  | other
  deriving DecidableEq, Repr

/-- The kinds of errors that mean that the client disconnected. -/
def isDisconnectKind : IoErrorKind → Bool
  | .brokenPipe | .connectionReset => true
  | .other => false

/-- Why a transfer failed. -/
inductive ResponseTransferError where
  | clientDisconnect (error : IoErrorKind)
  | clientWrite (error : IoErrorKind)
  | clientWriteUnpreserved (error : IoErrorKind)
  | deliveredPrefix (cause : ResponseTransferError)
  | backendEof (bytesReceived : Nat)
  | io
  deriving DecidableEq, Repr

namespace ResponseTransferError

/-- A failed client write. -/
def fromClientWrite (error : IoErrorKind) : ResponseTransferError :=
  if isDisconnectKind error then .clientDisconnect error else .clientWrite error

/-- A failed client write after the rest of the response was cleaned up or not. -/
def fromClientWriteAfterCleanup (error : IoErrorKind)
    (cleanup : Option ResponseTransferError) : ResponseTransferError :=
  match cleanup with
  | some _ => .clientWriteUnpreserved error
  | none => fromClientWrite error

/-- A backend failure after the client received response octets. -/
def afterClientDelivery : ResponseTransferError → ResponseTransferError
  | .backendEof received => .deliveredPrefix (.backendEof received)
  | .io => .deliveredPrefix .io
  | other => other

/-- The backend failed and the client received nothing. -/
def isBackendFailure : ResponseTransferError → Bool
  | .backendEof _ | .io => true
  | _ => false

theorem afterClientDelivery_of_isBackendFailure {error : ResponseTransferError}
    (failed : error.isBackendFailure = true) :
    error.afterClientDelivery = .deliveredPrefix error := by
  cases error with
  | backendEof received => rfl
  | io => rfl
  | _ => cases failed

end ResponseTransferError

/-- An error of a session.  A backend error may wrap the error of a transfer. -/
inductive SessionError where
  | clientDisconnect (error : IoErrorKind)
  | backend (transfer : Option ResponseTransferError)
  deriving DecidableEq, Repr

namespace SessionError

/-- Wrap the error of a client write outside of a transfer. -/
def ofIo (error : IoErrorKind) : SessionError :=
  if isDisconnectKind error then .clientDisconnect error else .backend none

/-- Wrap the error of a transfer. -/
def ofTransfer : ResponseTransferError → SessionError
  | .clientDisconnect error => .clientDisconnect error
  | .clientWrite error =>
    if isDisconnectKind error then .clientDisconnect error
    else .backend (some (.clientWrite error))
  | .clientWriteUnpreserved error =>
    if isDisconnectKind error then .clientDisconnect error
    else .backend (some (.clientWriteUnpreserved error))
  | other => .backend (some other)

def isFailedClientWrite : SessionError → Bool
  | .backend (some (.clientWrite _)) | .backend (some (.clientWriteUnpreserved _)) => true
  | _ => false

/-- The client may already have response octets, so that no other response may follow. -/
def blocksAnotherResponse (error : SessionError) : Bool :=
  error.isFailedClientWrite ||
    match error with
    | .backend (some (.deliveredPrefix _)) => true
    | _ => false

end SessionError

end NntpProxy.Transport
