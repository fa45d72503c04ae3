import AssetWatch.Json.Basic
import AssetWatch.Json.Quote

/-!
# Writing JSON

Values are written without any blanks.
-/

namespace AssetWatch.Json

mutual

/-- The text of a value. -/
def write : Json → List Char
  | .null => "null".toList
  | .bool true => "true".toList
  | .bool false => "false".toList
  | .number literal => literal.text
  | .string text => Quote.write text.toList
  | .array [] => "[]".toList
  | .array (item :: items) => '[' :: write item ++ writeItems items
  | .object [] => ['\x7b', '\x7d']
  | .object (member :: members) => '\x7b' :: writeMember member ++ writeMembers members

/-- The items after the first one, and the closing bracket. -/
def writeItems : List Json → List Char
  | [] => [']']
  | item :: items => ',' :: write item ++ writeItems items

/-- One member of an object. -/
def writeMember : String × Json → List Char
  | (key, value) => Quote.write key.toList ++ ':' :: write value

/-- The members after the first one, and the closing brace. -/
def writeMembers : List (String × Json) → List Char
  | [] => ['\x7d']
  | member :: members => ',' :: writeMember member ++ writeMembers members

end

end AssetWatch.Json
