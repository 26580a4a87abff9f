import ApiBindings.Text.Printable

/-!
# Quoted text

How a message quotes a text that came from outside: between double quotes, with short escapes for the
quote, the backslash and the usual control characters, and with the code point in hexadecimal for every
other character that is not shown as it is.
-/

namespace ApiBindings.Text

set_option autoImplicit false

/-- One character inside a quoted text. -/
def quotedChar (c : Char) : List Char :=
  if c = '"' then ['\\', '"']
  else if c = '\\' then ['\\', '\\']
  else if c = '\t' then ['\\', 't']
  else if c = '\r' then ['\\', 'r']
  else if c = '\n' then ['\\', 'n']
  else if c = '\x00' then ['\\', '0']
  else if isPrintable c then [c]
  else ['\\', 'u', '\x7b'] ++ Nat.toDigits 16 c.toNat ++ ['\x7d']

/-- A text between quotes. -/
def quoted (text : String) : String :=
  String.ofList ('"' :: text.toList.flatMap quotedChar ++ ['"'])

end ApiBindings.Text
