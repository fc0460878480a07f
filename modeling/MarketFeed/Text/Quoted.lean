import MarketFeed.Text.Printable

/-!
# Quoted text

Text between double quotes, for diagnostics: quotes and backslashes take a backslash, and a
character that does not show itself stands as its code point.
-/

namespace MarketFeed.Quoted

def escape (c : Char) : List Char :=
  if c = '\x00' then ['\\', '0']
  else if c = '\t' then ['\\', 't']
  else if c = '\r' then ['\\', 'r']
  else if c = '\n' then ['\\', 'n']
  else if c = '"' || c = '\\' then ['\\', c]
  else if Printable.test c then [c]
  else '\\' :: 'u' :: '\x7b' :: Nat.toDigits 16 c.toNat ++ ['\x7d']

def ofString (s : String) : String :=
  String.ofList ('"' :: s.toList.flatMap escape ++ ['"'])

example : "a\"b\\\n".toList.flatMap escape = "a\\\"b\\\\\\n".toList := by decide

end MarketFeed.Quoted
