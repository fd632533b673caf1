import ServiceDiscovery.Text.Quoted

/-!
# Errors

What can go wrong when packets are read and written and when a session runs.

* `Error`: the causes;
* `Error.message`: their wording;
* `Error.blamesPacket`: the causes that lie in a packet that was received;
* `Error.same`: equality, where failures of the system are compared by kind alone.
-/

namespace ServiceDiscovery

inductive Section where
  | question
  | answer
  | authority
  | additional
  deriving DecidableEq

/-- What an entry of a section is called. -/
def Section.entry : Section → String
  | .question => "question"
  | .answer => "answer"
  | .authority => "authority"
  | .additional => "additional"

/-- What several entries of a section are called. -/
def Section.entries : Section → String
  | .question => "questions"
  | .answer => "answers"
  | .authority => "authorities"
  | .additional => "additionals"

inductive SystemFailure where
  | addressInUse
  | permissionDenied
  | other
  deriving DecidableEq

inductive AddressForm where
  | address
  | socketAddress
  deriving DecidableEq

inductive Error where
  /-- The bytes end too early, or a pointer leads out of the packet. -/
  | unexpectedEnd
  /-- A label has more than 63 bytes. -/
  | labelTooLong
  /-- A length byte begins with the bits 01 or 10. -/
  | reservedLabel
  /-- A name jumps too often. -/
  | tooManyPointers
  /-- A character string has more than 255 bytes. -/
  | stringTooLong
  | emptyText
  /-- Record data has more than 65535 bytes. -/
  | dataTooLong
  /-- A section cannot take another entry. -/
  | sectionFull (full : Section)
  /-- An attribute has no key, or a key with an equals sign. -/
  | invalidAttribute (text : String)
  | invalidPattern (reason : String)
  | malformedEntry (place : Section) (index : Nat) (cause : Error)
  | noInterface
  /-- The read buffer cannot hold a header. -/
  | bufferTooSmall
  | notRunning
  | closed
  /-- A lock was left by a task that failed. -/
  | poisoned (reason : String)
  | invalidAddress (form : AddressForm)
  | system (kind : SystemFailure) (reason : String)
  deriving DecidableEq

namespace Error

def message : Error → String
  | unexpectedEnd => "unexpected EOF"
  | labelTooLong => "segment length too long"
  | reservedLabel => "segment prefix is reserved"
  | tooManyPointers => "too many compression pointers"
  | stringTooLong => "character string exceeds maximum length (255)"
  | emptyText => "TXT string is empty"
  | dataTooLong => "resource length too long"
  | sectionFull full => "too many " ++ full.entries ++ " to pack (>65535)"
  | invalidAttribute text => "invalid attribute: " ++ Text.quote text
  | invalidPattern reason => "invalid name pattern: " ++ reason
  | malformedEntry place index cause =>
    "parsing " ++ place.entry ++ " #" ++ toString index ++ ": " ++ cause.message
  | noInterface => "no available interface"
  | bufferTooSmall => "read buffer too small"
  | notRunning => "session is not running"
  | closed => "connection closed"
  | poisoned reason => "mutex poison: " ++ reason
  | invalidAddress .address => "parse ip: invalid IP address syntax"
  | invalidAddress .socketAddress => "parse ip: invalid socket address syntax"
  | system _ reason => "io error: " ++ reason

/-- Whether the cause lies in a single packet, so that receiving goes on with the next. -/
def blamesPacket : Error → Bool
  | unexpectedEnd | labelTooLong | reservedLabel | tooManyPointers => true
  | invalidAttribute _ | malformedEntry .. => true
  | _ => false

/-- Equality of errors, except that failures of the system need only be of one kind. -/
def same : Error → Error → Bool
  | system k _, system k' _ => k = k'
  | malformedEntry p i c, malformedEntry p' i' c' => p = p' && i = i' && same c c'
  | e, e' => e = e'

end Error

end ServiceDiscovery
