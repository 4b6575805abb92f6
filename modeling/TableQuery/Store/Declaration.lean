import TableQuery.Store.DeclaredType

namespace TableQuery.Store

inductive Constraint
  | notNull
  | primaryKey (descending : Bool)
  | references (table : String) (target : Option String)
  | generated
deriving DecidableEq, Repr

structure Declaration where
  text : String
  type : DeclaredType
  constraints : List Constraint
deriving DecidableEq, Repr

namespace Declaration

abbrev Piece := List Char

def isWordChar (c : Char) : Bool := c.isAlphanum || c = '_' || c = '$' || 0x80 ≤ c.toNat

def cutThrough (mark : List Char) : List Char → Piece × List Char
  | [] => ([], [])
  | c :: rest =>
    if Text.startsWith (c :: rest) mark then
      ((c :: rest).take mark.length, (c :: rest).drop mark.length)
    else
      let (piece, after) := cutThrough mark rest
      (c :: piece, after)

/-- The characters through the closing quote; two quotes do not close. -/
def cutQuoted (mark : Char) : List Char → Piece × List Char
  | [] => ([], [])
  | c :: rest =>
    if c ≠ mark then
      let (piece, after) := cutQuoted mark rest
      (c :: piece, after)
    else
      match rest with
      | [] => ([c], [])
      | d :: more =>
        if d = mark then
          let (piece, after) := cutQuoted mark more
          (c :: d :: piece, after)
        else ([c], d :: more)

def cutWhile (p : Char → Bool) (cs : List Char) : Piece × List Char :=
  (cs.takeWhile p, cs.dropWhile p)

def cutAfter (c : Char) (rest : List Char) : Piece × List Char :=
  if DeclaredType.isSpace c then cutWhile DeclaredType.isSpace rest
  else if isWordChar c then cutWhile isWordChar rest
  else if c = '[' then cutThrough [']'] rest
  else if DeclaredType.isQuote c then cutQuoted c rest
  else if Text.startsWith (c :: rest) ['-', '-'] then cutThrough ['\n'] rest
  else if Text.startsWith (c :: rest) ['/', '*'] then cutThrough ['*', '/'] rest
  else ([], rest)

def piecesFrom : Nat → List Char → List Piece
  | 0, _ => []
  | _ + 1, [] => []
  | fuel + 1, c :: rest =>
    let (piece, after) := cutAfter c rest
    (c :: piece) :: piecesFrom fuel after

def pieces (text : String) : List Piece := piecesFrom text.length text.toList

/-- Comments count as blanks. -/
def isBlank (p : Piece) : Bool :=
  p.all DeclaredType.isSpace || Text.startsWith p ['-', '-'] || Text.startsWith p ['/', '*']

def capitals (p : Piece) : String := String.ofList (p.map Char.toUpper)

def isConstraintWord (p : Piece) : Bool :=
  ["CONSTRAINT", "PRIMARY", "NOT", "NULL", "UNIQUE", "CHECK", "DEFAULT", "COLLATE", "REFERENCES",
    "DEFERRABLE", "AS"].contains (capitals p)

def typeText (ps : List Piece) : String :=
  let before := ps.takeWhile (!isConstraintWord ·)
  String.ofList ((before.dropWhile isBlank).reverse.dropWhile isBlank).reverse.flatten

def name (p : Piece) : String := String.ofList (DeclaredType.unquoted p)

def reference? : List Piece → Option Constraint
  | [] => none
  | [table] => some (.references (name table) none)
  | table :: mark :: rest =>
    some (.references (name table) (if mark = ['('] then rest.head?.map name else none))

def nextIs (word : String) (ps : List Piece) : Bool := ps.head?.any fun p => capitals p = word

def constraintAt? (word : String) (rest : List Piece) : Option Constraint :=
  if word = "NOT" then if nextIs "NULL" rest then some .notNull else none
  else if word = "PRIMARY" then some (.primaryKey (nextIs "DESC" (rest.drop 1)))
  else if word = "REFERENCES" then reference? rest
  else if word = "AS" then some .generated
  else none

def constraintsFrom : Nat → List Piece → List Constraint
  | _, [] => []
  | depth, p :: rest =>
    if p = ['('] then constraintsFrom (depth + 1) rest
    else if p = [')'] then constraintsFrom (depth - 1) rest
    else
      let here := if depth = 0 then constraintAt? (capitals p) rest else none
      here.toList ++ constraintsFrom depth rest

def ofText (text : String) : Declaration :=
  let ps := pieces text
  ⟨text, .ofText (typeText ps), constraintsFrom 0 (ps.filter (!isBlank ·))⟩

def ofType (type : DeclaredType) : Declaration := ⟨type.name, type, []⟩

/-- Such a column holds the numbers of the rows, by which they are ordered. -/
def isRowNumber (d : Declaration) : Bool :=
  d.type.name = DeclaredType.integer.name && d.constraints.contains (.primaryKey false)

end Declaration
end TableQuery.Store
