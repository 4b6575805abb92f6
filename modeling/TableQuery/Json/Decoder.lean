import TableQuery.Json.Draft
import TableQuery.Json.Rejection

namespace TableQuery.Json

/-- A finished value, or a text that is still being read; they refuse some things differently. -/
inductive Origin
  | value
  | text
deriving DecidableEq

structure Decoder (α : Type) where
  read : Origin → Draft → Except Rejection α

def Draft.found : Draft → Except Fault Found
  | .scalar .null => .ok .null
  | .scalar (.bool b) => .ok (.bool b)
  | .scalar (.int n) => .ok (.int n)
  | .scalar (.float x) => .ok (.float x.val)
  | .scalar (.str s) => .ok (.str s)
  | .scalar (.arr _) => .ok .list
  | .scalar (.obj _) => .ok .object
  | .list _ _ => .ok .list
  | .object _ _ => .ok .object
  | .tooDeep _ => .error .tooDeep
  | .flawed flaw => .error flaw.fault

def fault (f : Fault) : Rejection := .here (.malformed f)

def invalidType (d : Draft) (expected : String) : Rejection :=
  match d.found with
  | .ok found => .here (.invalidType found expected)
  | .error f => fault f

namespace Draft

/-- A fault at a name has no named place; one after a name belongs to the object. -/
def rejectStop (stop : Option Key × Break) : Rejection :=
  match stop.1 with
  | some (.ok _) => fault stop.2.fault
  | some (.error f) => (fault f).under .hidden
  | none => (fault stop.2.fault).under .hidden

mutual

def toJson : Draft → Except Rejection Json
  | .scalar j => .ok j
  | .flawed flaw => .error (fault flaw.fault)
  | .tooDeep _ => .error (fault .tooDeep)
  | .list items stop => do
    let js ← toItems 0 items
    match stop with
    | some b => .error (fault b.fault)
    | none => .ok (.arr js)
  | .object fields stop => do
    let js ← toFields [] fields
    match stop with
    | some s => .error (rejectStop s)
    | none => .ok (.obj js)

def toItems : Nat → List Draft → Except Rejection (List Json)
  | _, [] => .ok []
  | index, d :: rest =>
    match toJson d with
    | .error r => .error (r.under (.item index))
    | .ok j => (toItems (index + 1) rest).map (j :: ·)

def toFields : List (String × Json) → List (Key × Draft) →
    Except Rejection (List (String × Json))
  | read, [] => .ok read
  | _, (.error f, _) :: _ => .error ((fault f).under .hidden)
  | read, (.ok name, d) :: rest =>
    match toJson d with
    | .error r => .error (r.under (.field name))
    | .ok j => toFields (putField name j read) rest

end

end Draft

namespace Decoder

variable {α β : Type}

def json : Decoder Json := ⟨fun _ d => d.toJson⟩

def stringOf (expected : String) : Decoder String := ⟨fun _ d =>
  match d with
  | .scalar (.str s) => .ok s
  | d => .error (invalidType d expected)⟩

def string : Decoder String := stringOf "a string"

def boolean : Decoder Bool := ⟨fun _ d =>
  match d with
  | .scalar (.bool b) => .ok b
  | d => .error (invalidType d "a boolean")⟩

def natural64 (expected : String) : Decoder Nat := ⟨fun _ d =>
  match d with
  | .scalar (.int n) =>
    if Decimal.IntegerRange.uint64.contains n then .ok n.toNat
    else .error (.here (.invalidValue (.int n) expected))
  | d => .error (invalidType d expected)⟩

def binary64 : Decoder FiniteFloat := ⟨fun _ d =>
  match d with
  | .scalar (.float x) => .ok x
  | .scalar (.int n) =>
    if h : (intToFloat n).isFinite = true then .ok ⟨intToFloat n, h⟩
    else .error (.here (.invalidValue (.int n) "f64"))
  | d => .error (invalidType d "f64")⟩

def nullable (a : Decoder α) : Decoder (Option α) := ⟨fun origin d =>
  match d with
  | .scalar .null => .ok none
  | d => (a.read origin d).map some⟩

def readItems (a : Decoder α) (origin : Origin) : Nat → List Draft → Except Rejection (List α)
  | _, [] => .ok []
  | index, d :: rest =>
    match a.read origin d with
    | .error r => .error (r.under (.item index))
    | .ok x => (readItems a origin (index + 1) rest).map (x :: ·)

def list (a : Decoder α) : Decoder (List α) := ⟨fun origin d =>
  match d with
  | .list items stop =>
    match readItems a origin 0 items, stop with
    | .error r, _ => .error r
    | .ok _, some b => .error (fault b.fault)
    | .ok xs, none => .ok xs
  | d => .error (invalidType d "a sequence")⟩

def named (table : List (String × α)) (name : String) : Except Rejection α :=
  match table.find? (·.1 = name) with
  | some (_, x) => .ok x
  | none => .error (.here (.unknownVariant name (table.map (·.1))))

def unit (d : Draft) : Except Rejection Unit :=
  match d with
  | .scalar .null => .ok ()
  | d => .error (invalidType d "unit")

def soleFieldExpected : Rejection := .here (.invalidValue .object "map with a single key")

/-- A name alone in an object, as far as the text goes on after it. -/
def soleField (table : List (String × α)) (fields : List (Key × Draft))
    (stop : Option (Option Key × Break)) : Except Rejection α :=
  match fields, stop with
  | (.error f, _) :: _, _ => .error (fault f)
  | (.ok name, d) :: more, _ => do
    let x ← named table name
    match unit d with
    | .error r => .error (r.under (.field name))
    | .ok _ =>
      match more, stop with
      | [], none => .ok x
      | [], some (none, ⟨.endInObject, _⟩) => .error (fault .endInObject)
      | _, _ => .error (fault .valueExpected)
  | [], some (some (.error f), _) => .error (fault f)
  | [], some (some (.ok name), b) => do
    let _ ← named table name
    .error (fault b.fault)
  | [], some (none, b) => .error (fault b.fault)
  | [], none => .error (fault .keyNotString)

/-- A choice written as its name, or as an object with that name and null. -/
def choice (table : List (String × α)) : Decoder α := ⟨fun origin d =>
  match d, origin with
  | .scalar (.str name), _ => named table name
  | .object [(.ok name, d)] none, .value => do
    let x ← named table name
    match unit d with
    | .error r => .error (r.under (.field name))
    | .ok _ => .ok x
  | .object _ _, .value => .error soleFieldExpected
  | d, .value => .error (invalidType d "string or map")
  | .object fields stop, .text => soleField table fields stop
  | .flawed ⟨.bare, _, _⟩, .text => .error (fault .valueExpected)
  | .flawed flaw, .text => .error (fault flaw.fault)
  | .tooDeep (.object _ _), .text => .error (fault .tooDeep)
  | _, .text => .error (fault .valueExpected)⟩

def firstFitting (type : String) (readers : List (Decoder α)) : Decoder α := ⟨fun origin d =>
  match origin, d.toJson with
  | .text, .error r => .error r
  | _, _ =>
    match readers.findSome? fun a => (a.read .value d).toOption with
    | some x => .ok x
    | none => .error (.here (.noVariantFits type))⟩

def map (f : α → β) (a : Decoder α) : Decoder β := ⟨fun origin d => (a.read origin d).map f⟩

def refine (f : α → Except Reason β) (a : Decoder α) : Decoder β := ⟨fun origin d => do
  match f (← a.read origin d) with
  | .ok x => .ok x
  | .error reason => .error (.here reason)⟩

def decode (a : Decoder α) (j : Json) : Except Rejection α := a.read .value (.ofJson j)

end Decoder
end TableQuery.Json
