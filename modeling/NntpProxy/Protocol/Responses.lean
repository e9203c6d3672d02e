import NntpProxy.Protocol.Status

/-!
# Local replies

The status lines that the proxy itself sends to a client.
-/

namespace NntpProxy.Protocol

/-- A line of text closed by the line end of the wire format. -/
def line (text : String) : Bytes :=
  ascii text ++ crlf

def authRequired : Bytes :=
  line "381 Password required"

def authAccepted : Bytes :=
  line "281 Authentication accepted"

def authFailed : Bytes :=
  line "481 Authentication failed"

def authRequiredForCommand : Bytes :=
  line "480 Authentication required"

def authOutOfSequence : Bytes :=
  line "482 Authentication commands issued out of sequence"

def authAlreadyAuthenticated : Bytes :=
  line "502 Already authenticated"

def authUnknownSubcommand : Bytes :=
  line "501 Syntax error in command"

def connectionClosing : Bytes :=
  line "205 Connection closing"

def postingNotPermitted : Bytes :=
  line "440 Posting not permitted"

def backendError : Bytes :=
  line "503 Backend error"

def commandTooLong : Bytes :=
  line "501 Command too long"

def commandSyntaxErrorResponse : Bytes :=
  line "501 Syntax error in command"

def noSuchArticle : Bytes :=
  line "430 No such article"

/-- The rejection of a transit command. -/
def transitReject : Bytes :=
  line "503 Feature not supported in per-command routing mode"

/-- The rejection of a command that needs reader state. -/
def statefulReject : Bytes :=
  line "503 Feature not supported in stateless proxy mode"

/-- The rejection of a command that would change the transport. -/
def transportReject : Bytes :=
  line "503 Transport-changing command not supported"

def capabilitiesWithoutAuthinfoResponse : Bytes :=
  line "101 Capability list:" ++ line "VERSION 2" ++ line "READER" ++ line "OVER" ++
    line "HDR" ++ line "."

def capabilitiesWithAuthinfoResponse : Bytes :=
  line "101 Capability list:" ++ line "VERSION 2" ++ line "READER" ++
    line "AUTHINFO USER PASS" ++ line "OVER" ++ line "HDR" ++ line "."

/-- The capability list for a client that may still authenticate, or may not. -/
def capabilitiesResponse (authEnabled : Bool) : Bytes :=
  if authEnabled then capabilitiesWithAuthinfoResponse else capabilitiesWithoutAuthinfoResponse

end NntpProxy.Protocol
