import AssetWatch.Json.Basic

/-!
# Records in JSON

A record with named fields has two layouts: an object with a member for each field, in any
order and among other members, or an array of the fields' values in the order in which they
are declared. Fields at the end may be left out of the array, and any field may be left out
of the object; whether a missing field has a default is for the reader of the record to say.
A record that is one of several kinds has its kind's name in front, as a member of its own
or as the first item.
-/

namespace AssetWatch.Json

/-- The values of a member that occurs several times. -/
def valuesOf (key : String) (members : List (String × Json)) : List Json :=
  (members.filter (fun member => member.1 = key)).map (·.2)

/-- The value of a member that may be missing; fails if there are several. -/
def single? : List Json → Option (Option Json)
  | [] => some none
  | [value] => some (some value)
  | _ => none

/-- The values of the named fields, in the order of the names. -/
def fields? (names : List String) : Json → Option (List (Option Json))
  | .object members => names.mapM fun name => single? (valuesOf name members)
  | .array items =>
    if items.length ≤ names.length then
      some (items.map some ++ List.replicate (names.length - items.length) none)
    else none
  | _ => none

/-- The kind of a record, given under `key`, and the record itself. -/
def tagged? (key : String) : Json → Option (String × Json)
  | .object members =>
    match valuesOf key members with
    | [.string kind] => some (kind, .object (members.filter (fun member => member.1 ≠ key)))
    | _ => none
  | .array (.string kind :: items) => some (kind, .array items)
  | _ => none

end AssetWatch.Json
