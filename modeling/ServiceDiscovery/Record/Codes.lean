/-!
# Numbered names: record types, classes and response codes

The protocol numbers what records hold, which network they are for and how a response went. Each
kind of number has its known values by name and keeps the others as they are.

* `RecordType`, `ResponseCode`: `ofCode`, `code` and `text`, with `code_ofCode`;
* `DnsClass`: 15 bits of class and, in the same wire field, a flag: `field`, `ofField`.
-/

namespace ServiceDiscovery

/-! ### Record types -/

/-- What a record holds or a question asks for. -/
inductive RecordType where
  | none
  | a
  | ns
  | cname
  | ptr
  | hinfo
  | mx
  | txt
  | aaaa
  | srv
  | opt
  | nsec
  | axfr
  | any
  | other (code : UInt16)
  deriving DecidableEq

namespace RecordType

def ofCode : UInt16 → RecordType
  | 0 => none
  | 1 => a
  | 2 => ns
  | 5 => cname
  | 12 => ptr
  | 13 => hinfo
  | 15 => mx
  | 16 => txt
  | 28 => aaaa
  | 33 => srv
  | 41 => opt
  | 47 => nsec
  | 252 => axfr
  | 255 => any
  | code => other code

def code : RecordType → UInt16
  | none => 0
  | a => 1
  | ns => 2
  | cname => 5
  | ptr => 12
  | hinfo => 13
  | mx => 15
  | txt => 16
  | aaaa => 28
  | srv => 33
  | opt => 41
  | nsec => 47
  | axfr => 252
  | any => 255
  | other code => code

def text : RecordType → String
  | none => "NONE"
  | a => "A"
  | ns => "NS"
  | cname => "CNAME"
  | ptr => "PTR"
  | hinfo => "HINFO"
  | mx => "MX"
  | txt => "TXT"
  | aaaa => "AAAA"
  | srv => "SRV"
  | opt => "OPT"
  | nsec => "NSEC"
  | axfr => "AXFR"
  | any => "ANY"
  | other code => "TYPE" ++ toString code

theorem code_ofCode (n : UInt16) : (ofCode n).code = n := by
  unfold ofCode
  split <;> rfl

end RecordType

/-! ### Classes -/

/-- The network a record or question is for. -/
structure DnsClass where
  code : UInt16
  deriving DecidableEq

namespace DnsClass

def internet : DnsClass := ⟨1⟩

/-- Every network, in questions. -/
def any : DnsClass := ⟨255⟩

def text (c : DnsClass) : String :=
  if c = internet then "IN" else if c = any then "ANY" else "CLASS" ++ toString c.code

/-- The wire field of a class, with its top bit used as a flag. -/
def field (c : DnsClass) (flag : Bool) : UInt16 :=
  UInt16.ofNat (c.code.toNat % 0x8000 + if flag then 0x8000 else 0)

/-- The class and the flag of a wire field. -/
def ofField (v : UInt16) : DnsClass × Bool :=
  (⟨UInt16.ofNat (v.toNat % 0x8000)⟩, 0x8000 ≤ v.toNat)

end DnsClass

/-! ### Response codes -/

/-- How a response went. -/
inductive ResponseCode where
  | success
  | formatError
  | serverFailure
  | nameError
  | notImplemented
  | refused
  | other (code : UInt8)
  deriving DecidableEq

namespace ResponseCode

def ofCode : UInt8 → ResponseCode
  | 0 => success
  | 1 => formatError
  | 2 => serverFailure
  | 3 => nameError
  | 4 => notImplemented
  | 5 => refused
  | code => other code

def code : ResponseCode → UInt8
  | success => 0
  | formatError => 1
  | serverFailure => 2
  | nameError => 3
  | notImplemented => 4
  | refused => 5
  | other code => code

def text : ResponseCode → String
  | success => "NOERROR"
  | formatError => "FORMERR"
  | serverFailure => "SERVFAIL"
  | nameError => "NXDOMAIN"
  | notImplemented => "NOTIMP"
  | refused => "REFUSED"
  | other code => "RCODE" ++ toString code

theorem code_ofCode (n : UInt8) : (ofCode n).code = n := by
  unfold ofCode
  split <;> rfl

end ResponseCode

end ServiceDiscovery
