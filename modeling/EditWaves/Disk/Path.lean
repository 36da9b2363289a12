/-!
# Paths

A path is a text whose parts are separated by slashes.  It is absolute if it starts
with one and asks for a directory if it ends with one.
-/

namespace EditWaves.Path

/-- Splits a list of characters at slashes. -/
def split : List Char → List (List Char)
  | [] => [[]]
  | c :: rest =>
    if c = '/' then [] :: split rest
    else
      match split rest with
      | [] => [[c]]
      | part :: parts => (c :: part) :: parts

/-- The parts of a path that are not empty. -/
def parts (path : String) : List String :=
  ((split path.toList).filter (· ≠ [])).map String.ofList

/-- Whether a path starts at the root. -/
def isAbsolute (path : String) : Bool := path.toList.head? = some '/'

/-- Whether a path ends with a slash. -/
def endsInSlash (path : String) : Bool := path.toList.getLast? = some '/'

/-- The path of a name seen from a directory: an absolute name stands for itself. -/
def join (directory name : String) : String :=
  if isAbsolute name || directory = "" then name
  else if endsInSlash directory then directory ++ name
  else directory ++ "/" ++ name

end EditWaves.Path
