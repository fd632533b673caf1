import ServiceDiscovery.Text.Printable
import ServiceDiscovery.Text.Extender

/-!
# Quoted text

Text in quotes shows on one line and without ambiguity: quotes and backslashes are escaped, four
control characters have short escapes, and whatever does not print on its own is written by its
code point.

* `escape`: how one character is written;
* `quote`: a whole text between quotes.
-/

namespace ServiceDiscovery.Text

/-- A character by its code point, in lower case hexadecimal without leading zeros. -/
def codePointEscape (c : Char) : List Char :=
  '\\' :: 'u' :: '\x7b' :: (Nat.toDigits 16 c.toNat ++ ['\x7d'])

/-- How a character is written between quotes. -/
def escape (c : Char) : List Char :=
  match c with
  | '\x00' => ['\\', '0']
  | '\t' => ['\\', 't']
  | '\r' => ['\\', 'r']
  | '\n' => ['\\', 'n']
  | '\\' => ['\\', '\\']
  | '"' => ['\\', '"']
  | c => if isPrintable c && !isExtender c then [c] else codePointEscape c

/-- A text between quotes. -/
def quote (s : String) : String :=
  String.ofList ('"' :: (s.toList.flatMap escape ++ ['"']))

end ServiceDiscovery.Text
