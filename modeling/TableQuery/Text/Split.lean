namespace TableQuery.Text

def cutAt (mark : Char) : List Char → Option (List Char × List Char)
  | [] => none
  | c :: rest =>
    if c = mark then some ([], rest)
    else (cutAt mark rest).map fun (head, tail) => (c :: head, tail)

/-- The pieces between the marks, one more than there are marks. -/
def splitAt (mark : Char) : List Char → List (List Char)
  | [] => [[]]
  | c :: rest =>
    if c = mark then [] :: splitAt mark rest
    else
      match splitAt mark rest with
      | [] => [[c]]
      | piece :: pieces => (c :: piece) :: pieces

def startsWith : List Char → List Char → Bool
  | _, [] => true
  | [], _ :: _ => false
  | c :: cs, p :: ps => c = p && startsWith cs ps

def dropStart? : List Char → List Char → Option (List Char)
  | cs, [] => some cs
  | [], _ :: _ => none
  | c :: cs, p :: ps => if c = p then dropStart? cs ps else none

def containsChars (part : List Char) : List Char → Bool
  | [] => part.isEmpty
  | c :: rest => startsWith (c :: rest) part || containsChars part rest

def contains (s part : String) : Bool := containsChars part.toList s.toList

end TableQuery.Text
