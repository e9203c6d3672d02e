import NntpProxy.Protocol.Text

/-!
# Client requests

A command line is parsed into a verb and its arguments; the verb is classified
without regard to letter case, and the arguments are searched for a message
identifier.  The kind and the presence of an identifier decide how a request is
routed.
-/

namespace NntpProxy.Protocol

/-- Longest accepted command line, its terminator included. -/
abbrev maxCommandLineOctets : Nat := 512

/-- How a request is routed. -/
inductive RequestRouteClass where
  | articleByMessageId
  | stateless
  | stateful
  | localReply
  | reject
  deriving DecidableEq, Repr

/-- A parsed request with the position of its message identifier in the arguments. -/
structure RequestContext where
  kind : RequestKind
  verb : Bytes
  args : Bytes
  messageId : Option (Nat × Nat)
  deriving DecidableEq, Repr

/-! ## Parsing -/

/-- A line without its line end. -/
def trimLineEnd (line : Bytes) : Bytes :=
  line.rdropWhile fun byte => byte == cr || byte == lf

/-- The known verbs. -/
def verbTable : List (Bytes × RequestKind) :=
  [(ascii "HDR", .hdr),
    (ascii "BODY", .body), (ascii "DATE", .date), (ascii "HEAD", .head), (ascii "HELP", .help),
    (ascii "LAST", .last), (ascii "LIST", .list), (ascii "MODE", .mode), (ascii "NEXT", .next),
    (ascii "OVER", .over), (ascii "POST", .post), (ascii "QUIT", .quit), (ascii "STAT", .stat),
    (ascii "XHDR", .xhdr),
    (ascii "CHECK", .check), (ascii "GROUP", .group), (ascii "IHAVE", .ihave),
    (ascii "XOVER", .xover),
    (ascii "ARTICLE", .article), (ascii "NEWNEWS", .newNews),
    (ascii "AUTHINFO", .authInfo), (ascii "COMPRESS", .compress), (ascii "STARTTLS", .startTls),
    (ascii "TAKETHIS", .takeThis),
    (ascii "LISTGROUP", .listGroup), (ascii "NEWGROUPS", .newGroups),
    (ascii "CAPABILITIES", .capabilities)]

/-- The kind of a verb. -/
def classifyVerb (verb : Bytes) : RequestKind :=
  match verbTable.find? fun entry => eqIgnoreAsciiCase verb entry.1 with
  | some (_, kind) => kind
  | none => .unknown

/-- A well-formed message identifier: 3 to 250 printable octets in angle
brackets, with no closing bracket inside. -/
def isMessageId (text : Bytes) : Bool :=
  decide (3 ≤ text.length ∧ text.length ≤ 250) &&
    text.head? == some 60 && text.getLast? == some 62 &&
    ((text.drop 1).dropLast).all fun byte => decide (33 ≤ byte ∧ byte ≤ 126) && byte != 62

/-- Position of the message identifier that the arguments consist of. -/
def findMessageId (args : Bytes) : Option (Nat × Nat) :=
  let trimmed := trimAscii args
  if trimmed = [] then none
  else if trimmed.head? != some 60 || trimmed.getLast? != some 62 ||
      ((trimmed.drop 1).dropLast).any isAsciiWhitespace then none
  else if (decodeUtf8 trimmed).isSome && isMessageId trimmed then
    let start := args.length - (args.dropWhile isAsciiWhitespace).length
    some (start, start + trimmed.length)
  else none

section

variable {args : Bytes} {start stop : Nat} (found : findMessageId args = some (start, stop))

include found

theorem trimAscii_of_findMessageId :
    (args.take stop).drop start = trimAscii args ∧ isMessageId (trimAscii args) = true := by
  unfold findMessageId at found
  simp only at found
  split at found
  · cases found
  split at found
  · cases found
  split at found
  next valid =>
    rw [Bool.and_eq_true] at valid
    cases found
    have behind := List.suffix_iff_eq_drop.mp (List.dropWhile_suffix isAsciiWhitespace (l := args))
    have inside : trimAscii args <+: args.dropWhile isAsciiWhitespace :=
      List.rdropWhile_prefix _ _
    rw [List.drop_take, Nat.add_sub_cancel_left, ← behind, ← List.prefix_iff_eq_take.mp inside]
    exact ⟨rfl, valid.2⟩
  · cases found

/-- What stands at the position of a message identifier is one. -/
theorem isMessageId_of_findMessageId :
    isMessageId ((args.take stop).drop start) = true := by
  rcases trimAscii_of_findMessageId found with ⟨text, isMessageId⟩
  rw [text]
  exact isMessageId

end

/-- Separators between the verb and its arguments. -/
def isSeparator (byte : UInt8) : Bool :=
  byte == 32 || byte == 9

namespace RequestContext

/-- Split a line into verb and arguments and classify it. -/
def ofLine (line : Bytes) : RequestContext :=
  let bytes := trimLineEnd line
  let verb := bytes.takeWhile fun byte => !isSeparator byte
  let args := (bytes.dropWhile fun byte => !isSeparator byte).drop 1
  ⟨classifyVerb verb, verb, args, findMessageId args⟩

/-- Parse one complete command line. -/
def parse (line : Bytes) : Option RequestContext :=
  if line.length > maxCommandLineOctets then none
  else if (ofLine line).verb = [] then none
  else some (ofLine line)

theorem findMessageId_of_parse {line : Bytes} {request : RequestContext}
    (parsed : parse line = some request) : request.messageId = findMessageId request.args := by
  unfold parse at parsed
  split at parsed
  · cases parsed
  split at parsed
  · cases parsed
  · cases parsed
    rfl

/-- How a request of this kind is routed. -/
def routeClassOf (kind : RequestKind) (hasMessageId : Bool) : RequestRouteClass :=
  match kind with
  | .capabilities | .quit | .authInfo => .localReply
  | .post | .ihave | .check | .takeThis | .startTls | .compress => .reject
  | .article | .body | .head | .stat => if hasMessageId then .articleByMessageId else .stateful
  | .group | .listGroup | .last | .next | .over | .xover | .hdr | .xhdr | .unknown => .stateful
  | .list | .date | .help | .mode | .newGroups | .newNews => .stateless

def hasMessageId (request : RequestContext) : Bool :=
  request.messageId.isSome

def routeClass (request : RequestContext) : RequestRouteClass :=
  routeClassOf request.kind request.hasMessageId

theorem kind_of_localReply {request : RequestContext} (isLocal : request.routeClass = .localReply) :
    request.kind = .capabilities ∨ request.kind = .quit ∨ request.kind = .authInfo := by
  rw [routeClass] at isLocal
  generalize request.hasMessageId = hasMessageId at isLocal
  cases kindEq : request.kind <;> cases hasMessageId <;> simp_all [routeClassOf]

variable (request : RequestContext)

/-- The request can use the article pipeline. -/
def isPipelineable : Bool :=
  request.routeClass == .articleByMessageId

/-- The octets sent to a backend for a request. -/
def wire : Bytes :=
  if request.args = [] then request.verb ++ crlf
  else request.verb ++ [32] ++ request.args ++ crlf

/-- Reported length of the octets sent to a backend. -/
def requestWireLen : Nat :=
  request.verb.length + (if request.args = [] then 0 else 1) + request.args.length + 2

theorem requestWireLen_eq :
    request.requestWireLen = request.wire.length := by
  unfold requestWireLen wire
  split
  · rename_i noArgs
    simp [noArgs]
  · simp only [List.length_append, List.length_cons, List.length_nil]

end RequestContext

example : (RequestContext.parse (ascii "article <a@b>\r\n")).map (fun request =>
    (request.kind, request.routeClass)) = some (.article, .articleByMessageId) := by
  decide +kernel

end NntpProxy.Protocol
