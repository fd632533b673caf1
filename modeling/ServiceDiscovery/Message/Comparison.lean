import ServiceDiscovery.Message.Basic

/-!
# Comparing messages

* `Message.same`: equal heads and the same entries in every section, in any order;
* `Message.isAnswerTo`: whether a response has something that a request asks for.
-/

namespace ServiceDiscovery

/-- Whether two lists have the same length and each entry of one equals some entry of the other. -/
def sameEntries {α : Type} (same : α → α → Bool) (xs ys : List α) : Bool :=
  xs.length = ys.length && xs.all (fun x => ys.any (same x ·))
    && ys.all fun y => xs.any (same · y)

namespace Message

/-- Whether two messages say the same thing; senders and received bytes do not count. -/
def same (m m' : Message) : Bool :=
  m.header = m'.header
    && sameEntries Question.same m.questions.toList m'.questions.toList
    && sameEntries Record.same m.answers.toList m'.answers.toList
    && sameEntries Record.same m.authorities.toList m'.authorities.toList
    && sameEntries Record.same m.additionals.toList m'.additionals.toList

/-- Whether a record is of the kind that a question asks for. -/
def meets (r : Record) (q : Question) : Bool :=
  r.isNamed q.name && r.header.dnsClass = q.dnsClass
    && (q.type = .any || r.header.type = q.type)

/-- Whether identifiers do not contradict each other; zero stands for any. -/
def idsAgree (m m' : Message) : Bool :=
  m.header.id = 0 || m'.header.id = 0 || m.header.id = m'.header.id

/-- Whether a response has a record that some question of the request asks for. -/
def isAnswerTo (response request : Message) : Bool :=
  response.isResponse && idsAgree request response
    && request.questions.any fun q => response.records.any fun r => meets r q

end Message

end ServiceDiscovery
