import ServiceDiscovery.Address.Basic
import ServiceDiscovery.Header
import ServiceDiscovery.Question
import ServiceDiscovery.Record.Basic

/-!
# Messages

A message has a head and four sections of entries. One that was received remembers its bytes until
it is changed, so that it can be passed on exactly as it came.

* `Message.ofHeader`, `request`, `answer`: messages without entries;
* `addQuestion`, `addAnswer`, `addAuthority`, `addAdditional`: one more entry, up to 65535 of each.
  A full section leaves the message as it is;
* `withHeader`: a changed head; `tagged`: a message with its sender;
* `records`: all records, section by section;
* `text`: the whole message for readers.
-/

namespace ServiceDiscovery

structure Message where
  header : Header := {}
  questions : Array Question := #[]
  answers : Array Record := #[]
  authorities : Array Record := #[]
  additionals : Array Record := #[]
  sender : Option SocketAddress := none
  /-- The bytes that the message was read from, as long as it is unchanged. -/
  received : Option Bytes := none
  deriving DecidableEq

namespace Message

/-- A message with the given head and no entries. -/
def ofHeader (header : Header) : Message := { header := { header with counts := {} } }

/-- A request without questions. -/
def request : Message := ofHeader .request

/-- A response without records. -/
def answer : Message := ofHeader .answer

/-! ### Changing a message -/

def withHeader (m : Message) (f : Header → Header) : Message :=
  { m with header := f m.header, received := none }

def tagged (m : Message) (sender : SocketAddress) : Message := { m with sender := some sender }

/-- The result of a change and the message that it leaves. -/
abbrev Outcome := Except Error Unit × Message

def Outcome.message : Outcome → Except Error Message
  | (.ok (), m) => .ok m
  | (.error e, _) => .error e

/-- The largest number of entries in a section. -/
def maxEntries : UInt16 := 65535

/-- The same head with other numbers of entries. -/
def recount (h : Header) (f : Counts → Counts) : Header := { h with counts := f h.counts }

/-- One more question, unless the head already announces as many as it can. -/
def addQuestion (m : Message) (q : Question) : Outcome :=
  if m.header.counts.questions = maxEntries then (.error (.sectionFull .question), m)
  else (.ok (), { m with
    header := recount m.header fun c => { c with questions := c.questions + 1 }
    questions := m.questions.push q
    received := none })

/-- One more answer, unless the head already announces as many as it can. -/
def addAnswer (m : Message) (r : Record) : Outcome :=
  if m.header.counts.answers = maxEntries then (.error (.sectionFull .answer), m)
  else (.ok (), { m with
    header := recount m.header fun c => { c with answers := c.answers + 1 }
    answers := m.answers.push r
    received := none })

/-- One more authority record, unless the head already announces as many as it can. -/
def addAuthority (m : Message) (r : Record) : Outcome :=
  if m.header.counts.authorities = maxEntries then (.error (.sectionFull .authority), m)
  else (.ok (), { m with
    header := recount m.header fun c => { c with authorities := c.authorities + 1 }
    authorities := m.authorities.push r
    received := none })

/-- One more additional record, unless the head already announces as many as it can. -/
def addAdditional (m : Message) (r : Record) : Outcome :=
  if m.header.counts.additionals = maxEntries then (.error (.sectionFull .additional), m)
  else (.ok (), { m with
    header := recount m.header fun c => { c with additionals := c.additionals + 1 }
    additionals := m.additionals.push r
    received := none })

/-! ### Views -/

/-- The records of all sections, in their order on the wire. -/
def records (m : Message) : List Record :=
  m.answers.toList ++ m.authorities.toList ++ m.additionals.toList

def isRequest (m : Message) : Bool := m.header.isRequest

def isResponse (m : Message) : Bool := m.header.isResponse

/-- The lines of a section of records, with its title, unless it is empty. -/
def sectionLines (title : String) (records : Array Record) : List String :=
  if records.isEmpty then []
  else (";; " ++ title ++ " SECTION:") :: records.toList.map Record.text

def lines (m : Message) : List String :=
  [";; " ++ m.header.text]
    ++ (m.sender.map fun sender => ";; FROM: " ++ sender.text).toList
    ++ [";; QUESTION SECTION:"]
    ++ m.questions.toList.map (fun q => ";" ++ q.text)
    ++ sectionLines "ANSWER" m.answers
    ++ sectionLines "AUTHORITY" m.authorities
    ++ sectionLines "ADDITIONAL" m.additionals

/-- The message for readers, each line ended. -/
def text (m : Message) : String := String.join (m.lines.map (· ++ "\n"))

end Message

end ServiceDiscovery
