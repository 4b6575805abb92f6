import TableQuery.Json.Decoder

namespace TableQuery.Json

/-- A rejection with the position in the record's text at which it arises. -/
structure Misfit where
  position : Nat
  rejection : Rejection

def Misfit.earlier (a b : Misfit) : Misfit := if b.position < a.position then b else a

structure Slot where
  position : Nat
  segment : Segment
  draft : Draft

structure Fields where
  get : Nat → String → Except Misfit (Option Slot)
  missing : Nat → String → Misfit

/-- A reader of a record's fields; the number is the index of the first of them. -/
structure Record (α : Type) where
  names : List String
  read : Origin → Fields → Nat → Except Misfit α

namespace Record

variable {α β : Type}

def readSlot (a : Decoder α) (origin : Origin) (slot : Slot) : Except Misfit α :=
  match a.read origin slot.draft with
  | .ok x => .ok x
  | .error r => .error ⟨slot.position, r.under slot.segment⟩

def required (name : String) (a : Decoder α) : Record α where
  names := [name]
  read origin fields index :=
    match fields.get index name with
    | .error m => .error m
    | .ok none => .error (fields.missing index name)
    | .ok (some slot) => readSlot a origin slot

def defaulted (name : String) (value : α) (a : Decoder α) : Record α where
  names := [name]
  read origin fields index :=
    match fields.get index name with
    | .error m => .error m
    | .ok none => .ok value
    | .ok (some slot) => readSlot a origin slot

def optional (name : String) (a : Decoder α) : Record (Option α) :=
  defaulted name none a.nullable

def map (f : α → β) (a : Record α) : Record β where
  names := a.names
  read origin fields index := (a.read origin fields index).map f

def apply (f : Record (α → β)) (a : Record α) : Record β where
  names := f.names ++ a.names
  read origin fields index :=
    match f.read origin fields index, a.read origin fields (index + f.names.length) with
    | .ok g, .ok x => .ok (g x)
    | .error m, .ok _ => .error m
    | .ok _, .error n => .error n
    | .error m, .error n => .error (m.earlier n)

instance : Functor Record := ⟨map, fun x a => map (fun _ => x) a⟩

instance : Seq Record := ⟨fun f a => apply f (a ())⟩

def firstMisfit (known : List String) (seen : List String) : Nat → List (Key × Draft) →
    Option Misfit
  | _, [] => none
  | position, (.error f, _) :: _ => some ⟨position, (fault f).under .hidden⟩
  | position, (.ok name, d) :: rest =>
    if known.contains name then
      if seen.contains name then some ⟨position, .here (.duplicateField name)⟩
      else firstMisfit known (name :: seen) (position + 1) rest
    else
      match d.barrier? with
      | some f => some ⟨position, (fault f).under (.field name)⟩
      | none => firstMisfit known seen (position + 1) rest

def isNamed (name : String) (field : Key × Draft) : Bool := field.1.toOption = some name

/-- The break after the last field, or the repetition of a name before it. -/
def stopMisfit (known : List String) (fields : List (Key × Draft)) (stop : Option Key × Break) :
    Misfit :=
  match stop.1 with
  | some (.ok name) =>
    if known.contains name && fields.any (isNamed name) then
      ⟨fields.length, .here (.duplicateField name)⟩
    else ⟨fields.length, Draft.rejectStop stop⟩
  | _ => ⟨fields.length, Draft.rejectStop stop⟩

def slotNamed (name : String) : Nat → List (Key × Draft) → Option Slot
  | _, [] => none
  | position, field :: rest =>
    if isNamed name field then some ⟨position, .field name, field.2⟩
    else slotNamed name (position + 1) rest

def ofObject (fields : List (Key × Draft)) : Fields where
  get _ name := .ok (slotNamed name 0 fields)
  missing _ name := ⟨fields.length + 1, .here (.missingField name)⟩

def lengthText (type : String) (count : Nat) : String :=
  "struct " ++ type ++ " with " ++ Nat.repr count ++ (if count = 1 then " element" else " elements")

def ofList (expected : String) (items : List Draft) (stop : Option Break) : Fields where
  get index _ :=
    match items[index]?, stop with
    | some d, _ => .ok (some ⟨index, .item index, d⟩)
    | none, some b => .error ⟨index, fault b.fault⟩
    | none, none => .ok none
  missing index _ := ⟨index, .here (.invalidLength index expected)⟩

def listEnd (origin : Origin) (count : Nat) (items : List Draft) (stop : Option Break) :
    Option Reason :=
  if count < items.length then
    match origin with
    | .value => some (.invalidLength items.length "fewer elements in array")
    | .text => some (.malformed .trailingCharacters)
  else
    match stop.map Break.fault with
    | none => none
    | some .endInList => some (.malformed .endInList)
    | some .trailingComma => some (.malformed .trailingComma)
    | some _ => some (.malformed .trailingCharacters)

def withMisfit (result : Except Misfit α) : Option Misfit → Except Rejection α
  | none => result.mapError (·.rejection)
  | some m =>
    match result with
    | .ok _ => .error m.rejection
    | .error n => .error (n.earlier m).rejection

def decoder (type : String) (r : Record α) : Decoder α := ⟨fun origin d =>
  match d with
  | .object fields stop =>
    let first := match firstMisfit r.names [] 0 fields, stop.map (stopMisfit r.names fields) with
      | some m, some n => some (m.earlier n)
      | some m, none => some m
      | none, n => n
    withMisfit (r.read origin (ofObject fields) 0) first
  | .list items stop =>
    let result := r.read origin (ofList (lengthText type r.names.length) items stop) 0
    let last := (listEnd origin r.names.length items stop).map fun reason =>
      Misfit.mk r.names.length (.here reason)
    withMisfit result last
  | d => .error (invalidType d ("struct " ++ type))⟩

end Record
end TableQuery.Json
