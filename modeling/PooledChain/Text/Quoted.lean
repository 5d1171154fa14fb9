/-
Texts between double quotes, as they are shown in diagnostics.

A backslash, a double quote and the four named controls are written
with a backslash; any other character that has no shape of its own is
written by its code point. A single quote stands as it is.
-/
import PooledChain.Text.Printable

namespace PooledChain.Text

/-- A number in base 16, lower case, without leading zeros. -/
def hex (n : Nat) : List Char :=
  Nat.toDigits 16 n

/-- One character inside the quotes. -/
def escape (c : Char) : List Char :=
  if c == '\x00' then ['\\', '0']
  else if c == '\t' then ['\\', 't']
  else if c == '\r' then ['\\', 'r']
  else if c == '\n' then ['\\', 'n']
  else if c == '"' then ['\\', '"']
  else if c == '\\' then ['\\', '\\']
  else if isPrintable c then [c]
  else ['\\', 'u', '\x7b'] ++ hex c.toNat ++ ['\x7d']

/-- A text in quotes, with escapes for what is not shown as it is. -/
def quoted (text : String) : String :=
  String.ofList ('"' :: text.toList.flatMap escape ++ ['"'])

end PooledChain.Text
