/-!
# Places in a text, counted in bytes

A place in a text can be given by the number of bytes that stand before it when the text is
encoded. A place within a character is none.
-/

namespace AssetWatch.Text

/-- The number of bytes that a text takes up. -/
def byteLength : List Char → Nat
  | [] => 0
  | c :: rest => c.utf8Size + byteLength rest

/-- A text from the given place on. -/
def dropBytes? : Nat → List Char → Option (List Char)
  | 0, text => some text
  | _ + 1, [] => none
  | n + 1, c :: rest => if n + 1 < c.utf8Size then none else dropBytes? (n + 1 - c.utf8Size) rest

/-- A text up to the given place. -/
def takeBytes? : Nat → List Char → Option (List Char)
  | 0, _ => some []
  | _ + 1, [] => none
  | n + 1, c :: rest =>
    if n + 1 < c.utf8Size then none else (takeBytes? (n + 1 - c.utf8Size) rest).map (c :: ·)

/-- The part of a text from one place up to another. -/
def slice? (text : List Char) (start stop : Nat) : Option (List Char) :=
  (dropBytes? start text).bind (takeBytes? (stop - start))

end AssetWatch.Text
