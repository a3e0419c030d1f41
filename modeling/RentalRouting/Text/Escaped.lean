/-
RentalRouting/Text/Escaped.lean

A string quoted for a message: in double quotes, with NUL, tab, carriage return, newline,
backslash and the double quote written as backslash escapes, and a character that extends
the character before it, or that is not printable, written as its code point `\u{hex}` in
lower-case hex.  Everything else stands for itself.
-/
import RentalRouting.Text.Extend
import RentalRouting.Text.Printable
namespace RentalRouting.Text

/-- The lower-case hex digits of a number, without leading zeros. -/
def hexText (n : Nat) : String := String.ofList (Nat.toDigits 16 n)

/-- The text of one character inside an escaped quote. -/
def escapeForMessage (c : Char) : String :=
  if c.toNat = 0 then "\\0"
  else if c = '\t' then "\\t"
  else if c = '\r' then "\\r"
  else if c = '\n' then "\\n"
  else if c = '\\' then "\\\\"
  else if c = '"' then "\\\""
  else if isGraphemeExtend c || !isPrintable c then
    "\\u\x7b" ++ hexText c.toNat ++ "\x7d"
  else String.singleton c

/-- A string in double quotes with its unprintable characters escaped. -/
def escapedQuote (s : String) : String :=
  "\"" ++ String.join (s.toList.map escapeForMessage) ++ "\""

end RentalRouting.Text
