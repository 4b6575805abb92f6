import TableQuery.Url.Encoding

namespace TableQuery.Url

namespace Segment

def isSingleDot (s : String) : Bool := ["." , "%2e", "%2E"].contains s

def isDoubleDot (s : String) : Bool :=
  ["..", ".%2e", ".%2E", "%2e.", "%2E.", "%2e%2e", "%2e%2E", "%2E%2e", "%2E%2E"].contains s

def isDriveChars : List Char → Bool
  | [letter, mark] => letter.isAlpha && (mark = ':' || mark = '|')
  | _ => false

def isDrive (s : String) : Bool := isDriveChars s.toList

def driveText (s : String) : String := String.ofList (s.toList.take 1) ++ ":"

end Segment

/-- The segments between slashes; a backslash separates them too where `backslash` is set. -/
def splitSegments (backslash : Bool) : List Char → List (List Char)
  | [] => [[]]
  | c :: rest =>
    if c = '/' || (backslash && c = '\\') then [] :: splitSegments backslash rest
    else
      match splitSegments backslash rest with
      | [] => [[c]]
      | piece :: pieces => (c :: piece) :: pieces

/-- One segment up; a drive letter stays. -/
def parentOf (path : List String) : List String :=
  match path.getLast? with
  | some s => if Segment.isDrive s then path else path.dropLast
  | none => []

def isBreak (c : Char) : Bool := c = '\t' || c = '\n' || c = '\r'

/-- Tabs and line ends do not count in a URL. -/
def withoutBreaks (cs : List Char) : List Char := cs.filter fun c => !isBreak c

def next? (cs : List Char) : Option (Char × List Char) :=
  match cs.dropWhile isBreak with
  | [] => none
  | c :: rest => some (c, rest)

def cutAfterDrive? (piece : List Char) : Option (List Char × List Char) := do
  let (letter, afterLetter) ← next? piece
  let (colon, afterColon) ← next? afterLetter
  let rest := withoutBreaks afterColon
  if letter.isAlpha && colon = ':' && afterColon.head?.any isBreak && !rest.isEmpty then
    some ([letter, colon], rest)
  else none

structure Walk where
  path : List String
  onDrive : Bool

def Walk.enter (isFile : Bool) (w : Walk) (segment : String) : Walk :=
  if isFile && w.path.isEmpty && Segment.isDrive segment then ⟨[Segment.driveText segment], true⟩
  else { w with path := w.path ++ [segment] }

/-- Takes the segments of a path. A dot segment at the end leaves an empty one. In a file's path
what follows a drive letter after a line end is a segment of its own. -/
def Walk.along (isFile : Bool) : Walk → List (List Char) → Walk
  | w, [] => w
  | w, piece :: rest =>
    let segment := encode .path (withoutBreaks piece)
    let ending := if rest.isEmpty then [""] else []
    let next :=
      match if isFile && w.path.isEmpty then cutAfterDrive? piece else none with
      | some (drive, tail) => { w with path := [String.ofList drive, encode .path tail] }
      | none =>
        if Segment.isDoubleDot segment then { w with path := parentOf w.path ++ ending }
        else if Segment.isSingleDot segment then { w with path := w.path ++ ending }
        else w.enter isFile segment
    Walk.along isFile next rest

def trimFilePath (path : List String) : List String :=
  match path.dropWhile String.isEmpty with
  | [] => [""]
  | segments => segments

end TableQuery.Url
