namespace TableQuery.Text.Utf8

def isTail (b : UInt8) : Bool := 0x80 ≤ b && b ≤ 0xBF

/-- The bytes that may follow a leading byte of three or four. -/
def secondRange (lead : UInt8) : UInt8 × UInt8 :=
  if lead = 0xE0 then (0xA0, 0xBF)
  else if lead = 0xED then (0x80, 0x9F)
  else if lead = 0xF0 then (0x90, 0xBF)
  else if lead = 0xF4 then (0x80, 0x8F)
  else (0x80, 0xBF)

def isSecond (lead b : UInt8) : Bool := (secondRange lead).1 ≤ b && b ≤ (secondRange lead).2

/-- A character or an unreadable stretch, with its number of bytes. -/
structure Piece where
  char? : Option Char
  width : Nat
deriving DecidableEq, Repr

def payload (b : UInt8) (bits : Nat) : Nat := b.toNat % (1 <<< bits)

def Piece.ofPayload (n width : Nat) : Piece := ⟨some (Char.ofNat n), width⟩

def Piece.unreadable (width : Nat) : Piece := ⟨none, width⟩

def firstPiece (lead : UInt8) (rest : List UInt8) : Piece :=
  if lead < 0x80 then .ofPayload lead.toNat 1
  else if 0xC2 ≤ lead && lead ≤ 0xDF then
    match rest with
    | b :: _ =>
      if isTail b then .ofPayload (payload lead 5 * 64 + payload b 6) 2 else .unreadable 1
    | [] => .unreadable 1
  else if 0xE0 ≤ lead && lead ≤ 0xEF then
    match rest with
    | b :: c :: _ =>
      if !isSecond lead b then .unreadable 1
      else if !isTail c then .unreadable 2
      else .ofPayload ((payload lead 4 * 64 + payload b 6) * 64 + payload c 6) 3
    | [b] => .unreadable (if isSecond lead b then 2 else 1)
    | [] => .unreadable 1
  else if 0xF0 ≤ lead && lead ≤ 0xF4 then
    match rest with
    | b :: c :: d :: _ =>
      if !isSecond lead b then .unreadable 1
      else if !isTail c then .unreadable 2
      else if !isTail d then .unreadable 3
      else
        .ofPayload (((payload lead 3 * 64 + payload b 6) * 64 + payload c 6) * 64 + payload d 6) 4
    | [b, c] => .unreadable (if !isSecond lead b then 1 else if isTail c then 3 else 2)
    | [b] => .unreadable (if isSecond lead b then 2 else 1)
    | [] => .unreadable 1
  else .unreadable 1

/-- The pieces of a byte string; `skip` bytes belong to the piece before. -/
def piecesFrom : Nat → List UInt8 → List Piece
  | _, [] => []
  | skip + 1, _ :: rest => piecesFrom skip rest
  | 0, b :: rest => firstPiece b rest :: piecesFrom ((firstPiece b rest).width - 1) rest

def pieces (bytes : List UInt8) : List Piece := piecesFrom 0 bytes

def decodeLossy (bytes : List UInt8) : String :=
  String.ofList ((pieces bytes).map fun p => p.char?.getD '\uFFFD')

/-- Where a text stops being readable; no length when its last character is cut short. -/
structure Fault where
  start : Nat
  length : Option Nat
deriving DecidableEq, Repr

def Fault.message (f : Fault) : String :=
  match f.length with
  | some n => "invalid utf-8 sequence of " ++ Nat.repr n ++ " bytes from index " ++ Nat.repr f.start
  | none => "incomplete utf-8 byte sequence from index " ++ Nat.repr f.start

def isLead (b : UInt8) : Bool := 0xC2 ≤ b && b ≤ 0xF4

def Fault.ofRest (start : Nat) (rest : List UInt8) : Fault :=
  match rest with
  | [] => ⟨start, none⟩
  | b :: more =>
    let width := (firstPiece b more).width
    ⟨start, if isLead b && width = rest.length then none else some width⟩

def decode (bytes : List UInt8) : Except Fault String :=
  let ps := pieces bytes
  if ps.all (·.char?.isSome) then .ok (String.ofList (ps.filterMap (·.char?)))
  else
    let start := (ps.takeWhile (·.char?.isSome)).foldl (fun n p => n + p.width) 0
    .error (.ofRest start (bytes.drop start))

end TableQuery.Text.Utf8
