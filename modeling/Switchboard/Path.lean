/-! Paths of files: names with slashes between them. Paths are joined and taken apart as they are
written; nothing is looked up. -/

namespace Switchboard.Path

def pieces (path : List Char) : List (List Char) := path.splitOn '/'

def here : List Char := ['.']

def above : List Char := ['.', '.']

def bytes (path : List Char) : Nat := (path.map (·.utf8Size)).foldr (· + ·) 0

def limit : Nat := 4095

def pieceLimit : Nat := 255

def isAbsolute (path : List Char) : Bool := path.head? == some '/'

def joined (base path : String) : String :=
  if isAbsolute path.toList then path else base ++ "/" ++ path

def moves (path : List Char) : List (List Char) :=
  (pieces path).filter fun p => !p.isEmpty && p != here

def walk (place : List (List Char)) : List (List Char) → Option (List (List Char))
  | [] => some place
  | p :: ps =>
    if p = above then
      if place.isEmpty then none else walk place.dropLast ps
    else walk (place ++ [p]) ps

end Switchboard.Path
