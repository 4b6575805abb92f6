import TableQuery.Text.Utf8

namespace TableQuery.Csv

structure Position where
  offset : Nat
  line : Nat
deriving DecidableEq, Repr

structure RawRecord where
  position : Position
  fields : List (List UInt8)

inductive Mode
  | recordStart
  | fieldStart
  | unquoted
  | quoted
  | afterQuote
deriving DecidableEq, Repr

/-- A reading in progress; the lists have the latest entry first. -/
structure Scan where
  mode : Mode
  field : List UInt8
  fields : List (List UInt8)
  records : List RawRecord
  start : Position
  here : Position

namespace Scan

def comma : UInt8 := 0x2C

def quote : UInt8 := 0x22

def newline : UInt8 := 0x0A

def endsLine (b : UInt8) : Bool := b = newline || b = 0x0D

def push (b : UInt8) (s : Scan) : Scan := { s with mode := .unquoted, field := b :: s.field }

def endField (s : Scan) : Scan :=
  { s with mode := .fieldStart, field := [], fields := s.field.reverse :: s.fields }

def endRecord (s : Scan) : Scan :=
  let fields := (s.field.reverse :: s.fields).reverse
  { s with
    mode := .recordStart
    field := []
    fields := []
    records := ⟨s.start, fields⟩ :: s.records
    start := s.here }

def plain (b : UInt8) (s : Scan) : Scan :=
  if b = comma then s.endField else if endsLine b then s.endRecord else s.push b

def startField (b : UInt8) (s : Scan) : Scan :=
  if b = quote then { s with mode := .quoted } else s.plain b

def advance (p : Position) (b : UInt8) : Position :=
  ⟨p.offset + 1, if b = newline then p.line + 1 else p.line⟩

def step (s : Scan) (b : UInt8) : Scan :=
  let s := { s with here := advance s.here b }
  match s.mode with
  | .recordStart => if endsLine b then s else s.startField b
  | .fieldStart => s.startField b
  | .unquoted => s.plain b
  | .quoted =>
    if b = quote then { s with mode := .afterQuote } else { s with field := b :: s.field }
  | .afterQuote =>
    if b = quote then { s with mode := .quoted, field := b :: s.field } else s.plain b

def finish (s : Scan) : List RawRecord :=
  (if s.mode = .recordStart then s.records else s.endRecord.records).reverse

end Scan

def byteOrderMark : List UInt8 := [0xEF, 0xBB, 0xBF]

def start (offset : Nat) : Scan := ⟨.recordStart, [], [], [], ⟨0, 1⟩, ⟨offset, 1⟩⟩

def rawRecords (bytes : List UInt8) : List RawRecord :=
  if bytes.take 3 = byteOrderMark then ((bytes.drop 3).foldl Scan.step (start 3)).finish
  else (bytes.foldl Scan.step (start 0)).finish

structure EncodingError where
  record : Nat
  position : Position
  field : Nat
  near : Nat
deriving DecidableEq, Repr

def EncodingError.message (e : EncodingError) : String :=
  "CSV parse error: record " ++ Nat.repr e.record ++ " (line " ++ Nat.repr e.position.line ++
    ", field: " ++ Nat.repr e.field ++ ", byte: " ++ Nat.repr e.position.offset ++
    "): invalid utf-8: invalid UTF-8 in field " ++ Nat.repr e.field ++ " near byte index " ++
    Nat.repr e.near

def decodeFields (record : Nat) (position : Position) : Nat → List (List UInt8) →
    Except EncodingError (List String)
  | _, [] => .ok []
  | index, field :: rest =>
    match Text.Utf8.decode field with
    | .error fault => .error ⟨record, position, index, fault.start⟩
    | .ok s => (decodeFields record position (index + 1) rest).map (s :: ·)

def decodeRecord (record : Nat) (r : RawRecord) : Except EncodingError (List String) :=
  decodeFields record r.position 0 r.fields

end TableQuery.Csv
