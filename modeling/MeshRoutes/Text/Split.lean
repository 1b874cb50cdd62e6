/-!
# Pieces of texts

A text between the occurrences of a separator. There is always one piece more than there are
separators, and a piece may be empty.
-/

namespace MeshRoutes.Text

/-- The pieces of a text between the occurrences of a character. -/
def splitAt (separator : Char) : List Char → List (List Char)
  | [] => [[]]
  | c :: cs =>
    if c == separator then [] :: splitAt separator cs
    else
      match splitAt separator cs with
      | [] => [[c]]
      | piece :: pieces => (c :: piece) :: pieces

/-- The pieces of a text between commas, of which there is always one. -/
def splitAtCommas (s : String) : List String := (splitAt ',' s.toList).map String.ofList

end MeshRoutes.Text
