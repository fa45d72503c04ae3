import AssetWatch.Text.Printable

/-!
# Quoted text

A text in double quotes, as log fields and reports show it. A quote and a backslash get a
backslash in front, the common control characters have short names, and any other character
that is not printable is shown by its number. An apostrophe stands for itself.
-/

namespace AssetWatch.Text

/-- One character of a quoted text. -/
def quoteChar (c : Char) : List Char :=
  if c = '\x00' then ['\\', '0']
  else if c = '\t' then ['\\', 't']
  else if c = '\r' then ['\\', 'r']
  else if c = '\n' then ['\\', 'n']
  else if c = '\x22' || c = '\\' then ['\\', c]
  else if isHidden c then
    "\\u\x7b".toList ++ Nat.toDigits 16 c.toNat ++ ['\x7d']
  else [c]

/-- A text in quotes. -/
def quoted (text : String) : String :=
  String.ofList ('\x22' :: text.toList.flatMap quoteChar ++ ['\x22'])

end AssetWatch.Text
