import ServiceDiscovery.Message.Basic

/-!
# Queries

A query names the services that are looked for. Names that do not lie in its domain are meant
relative to it.

* `Query.qualify`: a service name with its domain;
* `Query.names`: the full names that a query asks for;
* `Query.request`: the message that asks for them.
-/

namespace ServiceDiscovery

structure Query where
  /-- Service types such as `_http._tcp`, with or without a domain. -/
  services : List String
  domain? : Option String := none
  /-- How long answers are collected, in milliseconds. -/
  timeout? : Option Nat := none
  deriving DecidableEq

namespace Query

/-- The domain that is meant where none is said. -/
def defaultDomain : String := "local"

/-- The domain of a query, as it was given. -/
def domain (q : Query) : String := q.domain?.getD defaultDomain

/-- A service name without dots at its end and in a domain. One that already ends in the domain, up
to ASCII case, stays as it is; an empty domain adds nothing. -/
def qualify (domain service : String) : String :=
  let service := Name.trimEnd service
  let ending := "." ++ domain
  if domain = "" || Name.endsWith (Name.lower service) (Name.lower ending) then service
  else service ++ ending

/-- The full names that a query asks for. -/
def names (q : Query) : List String := q.services.map (qualify (Name.trim q.domain))

/-- The message that asks for instances of every service. -/
def request (q : Query) : Except Error Message :=
  q.names.foldlM (fun m name => (m.addQuestion { name, type := .ptr }).message) Message.request

end Query

end ServiceDiscovery
