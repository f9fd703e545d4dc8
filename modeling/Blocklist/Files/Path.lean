import Blocklist.Text.Pieces

/-! # Paths

A path is a text whose names are separated by slashes. Empty names and single dots stand for the
folder before them, and two dots for the folder above it.
-/

namespace Blocklist

/-- The parts of a path between its slashes. -/
def pathParts (path : String) : List String :=
  (Text.pieces '/' path.toList).map String.ofList

/-- The part names nothing of its own. -/
def isIdlePart (part : String) : Bool :=
  part = "" || part = "."

/-- The path without idle parts at its end, except that a path of one part is left alone. -/
def withoutIdleEnd : List String → List String
  | [] => []
  | first :: rest => first :: (rest.reverse.dropWhile isIdlePart).reverse

/-- The path without the slashes at its end. -/
def withoutLastSlashes (path : String) : String :=
  String.ofList (Text.withoutEnd '/' path.toList)

/-- The folder that a path lies in, unless that is the folder where all paths begin. -/
def parentPath? (path : String) : Option String :=
  let parent := withoutIdleEnd (withoutIdleEnd (pathParts path)).dropLast
  match parent with
  | [] => none
  | [""] => none
  | parts => some (Text.joined "/" parts)

end Blocklist
