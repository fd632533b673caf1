import ServiceDiscovery.Error

/-!
# Attributes

The strings of a text record hold attributes: a key, and after the first equals sign a value. A
string without an equals sign is a key with an empty value.

* `Attribute.text`, `textsOf`: how attributes are written;
* `Attribute.ofText`, `allOfTexts`: how they are read.
-/

namespace ServiceDiscovery

structure Attribute where
  key : String
  value : String
  deriving DecidableEq

namespace Attribute

/-- Key and value around an equals sign. -/
def text (a : Attribute) : String := a.key ++ "=" ++ a.value

/-- Whether a key can be told from its value when written. -/
def hasKey (a : Attribute) : Bool := a.key ≠ "" && !a.key.toList.contains '='

/-- The strings of attributes, unless some key cannot be written. -/
def textsOf (attributes : List Attribute) : Except Error (List String) :=
  attributes.mapM fun a => if a.hasKey then .ok a.text else .error (.invalidAttribute a.key)

def ofText (s : String) : Except Error Attribute :=
  let key := s.toList.takeWhile (· ≠ '=')
  let value := (s.toList.dropWhile (· ≠ '=')).drop 1
  if key.isEmpty then .error (.invalidAttribute s)
  else .ok ⟨String.ofList key, String.ofList value⟩

def allOfTexts (ss : List String) : Except Error (List Attribute) := ss.mapM ofText

end Attribute

end ServiceDiscovery
