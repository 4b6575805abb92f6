import TableQuery.Json.Token

namespace TableQuery.Json

/-- A place at which a text breaks off: the fault for who reads the value, and for who reads past
it. -/
structure Break where
  fault : Fault
  barrier : Fault
deriving DecidableEq, Repr

def Break.same (fault : Fault) : Break := ⟨fault, fault⟩

abbrev Key := Except Fault String

/-- A list or an object has a `stop` when the text breaks off between its parts; an object may stop
after a key without a value. -/
inductive Draft
  | scalar (j : Json)
  | flawed (flaw : Flaw)
  | list (items : List Draft) (stop : Option Break)
  | object (fields : List (Key × Draft)) (stop : Option (Option Key × Break))
  | tooDeep (d : Draft)
deriving Inhabited

namespace Draft

structure Reading (α : Type) where
  value : α
  rest? : Option (List Token)

def depthLimit : Nat := 127

def missing (fault : Fault) : Reading Draft := ⟨.flawed ⟨.missing, fault, some fault⟩, none⟩

def ofFlaw (flaw : Flaw) (rest : List Token) : Reading Draft :=
  ⟨.flawed flaw, if flaw.barrier.isNone then some rest else none⟩

abbrev Items := List Draft × Option Break

abbrev Fields := List (Key × Draft) × Option (Option Key × Break)

def stopItems (b : Break) : Reading Items := ⟨([], some b), none⟩

def stopFields (key : Option Key) (b : Break) : Reading Fields := ⟨([], some (key, b)), none⟩

def keyOf : Token → Except Break Key
  | .text name => .ok (.ok name)
  | .flawed ⟨.quoted, fault, none⟩ => .ok (.error fault)
  | .flawed ⟨.quoted, fault, some barrier⟩ => .error ⟨fault, barrier⟩
  | _ => .error (.same .keyNotString)

mutual

/-- Every step takes a token or hands on to a part that does, so a few times the number of tokens
is fuel enough. -/
def readValue : Nat → Nat → List Token → Reading Draft
  | 0, _, _ => missing .valueExpected
  | _ + 1, _, [] => missing .endInValue
  | fuel + 1, depth, token :: rest =>
    match token with
    | .scalar j => ⟨.scalar j, some rest⟩
    | .text s => ⟨.scalar (.str s), some rest⟩
    | .flawed flaw => ofFlaw flaw rest
    | .openList =>
      let r := readItems fuel (depth - 1) rest
      let d := .list r.value.1 r.value.2
      ⟨if depth = 0 then .tooDeep d else d, r.rest?⟩
    | .openObject =>
      let r := readFields fuel (depth - 1) rest
      let d := .object r.value.1 r.value.2
      ⟨if depth = 0 then .tooDeep d else d, r.rest?⟩
    | .closeList => missing .valueExpected
    | .closeObject => missing .valueExpected
    | .comma => missing .valueExpected
    | .colon => missing .valueExpected
    | .stray => missing .valueExpected

def readItems : Nat → Nat → List Token → Reading Items
  | 0, _, _ => stopItems (.same .valueExpected)
  | _ + 1, _, [] => stopItems (.same .endInList)
  | _ + 1, _, .closeList :: rest => ⟨([], none), some rest⟩
  | fuel + 1, depth, tokens => readItem fuel depth tokens

def readItem : Nat → Nat → List Token → Reading Items
  | 0, _, _ => stopItems (.same .valueExpected)
  | fuel + 1, depth, tokens =>
    let item := readValue fuel depth tokens
    match item.rest? with
    | none => ⟨([item.value], none), none⟩
    | some rest =>
      let more := readMoreItems fuel depth rest
      ⟨(item.value :: more.value.1, more.value.2), more.rest?⟩

def readMoreItems : Nat → Nat → List Token → Reading Items
  | 0, _, _ => stopItems (.same .valueExpected)
  | fuel + 1, depth, tokens =>
    match tokens with
    | [] => stopItems (.same .endInList)
    | .closeList :: rest => ⟨([], none), some rest⟩
    | [.comma] => stopItems (.same .endInValue)
    | .comma :: .closeList :: _ => stopItems ⟨.trailingComma, .valueExpected⟩
    | .comma :: rest => readItem fuel depth rest
    | _ => stopItems (.same .listEndExpected)

def readFields : Nat → Nat → List Token → Reading Fields
  | 0, _, _ => stopFields none (.same .valueExpected)
  | _ + 1, _, [] => stopFields none (.same .endInObject)
  | _ + 1, _, .closeObject :: rest => ⟨([], none), some rest⟩
  | fuel + 1, depth, token :: rest => readField fuel depth token rest

def readField : Nat → Nat → Token → List Token → Reading Fields
  | 0, _, _, _ => stopFields none (.same .valueExpected)
  | fuel + 1, depth, token, rest =>
    match keyOf token, rest with
    | .error b, _ => stopFields none b
    | .ok key, [] => stopFields (some key) (.same .endInObject)
    | .ok key, .colon :: rest =>
      let field := readValue fuel depth rest
      match field.rest? with
      | none => ⟨([(key, field.value)], none), none⟩
      | some rest =>
        let more := readMoreFields fuel depth rest
        ⟨((key, field.value) :: more.value.1, more.value.2), more.rest?⟩
    | .ok key, _ => stopFields (some key) (.same .colonExpected)

def readMoreFields : Nat → Nat → List Token → Reading Fields
  | 0, _, _ => stopFields none (.same .valueExpected)
  | fuel + 1, depth, tokens =>
    match tokens with
    | [] => stopFields none (.same .endInObject)
    | .closeObject :: rest => ⟨([], none), some rest⟩
    | [.comma] => stopFields none ⟨.endInValue, .endInObject⟩
    | .comma :: .closeObject :: _ => stopFields none ⟨.trailingComma, .keyNotString⟩
    | .comma :: token :: rest => readField fuel depth token rest
    | _ => stopFields none (.same .objectEndExpected)

end

mutual

def ofJson : Json → Draft
  | .arr items => .list (ofItems items) none
  | .obj fields => .object (ofFields fields) none
  | j => .scalar j

def ofItems : List Json → List Draft
  | [] => []
  | j :: rest => ofJson j :: ofItems rest

def ofFields : List (String × Json) → List (Key × Draft)
  | [] => []
  | (name, j) :: rest => (.ok name, ofJson j) :: ofFields rest

end

mutual

def barrier? : Draft → Option Fault
  | .scalar _ => none
  | .flawed flaw => flaw.barrier
  | .list items stop => (barrierInItems items).or (stop.map Break.barrier)
  | .object fields stop => (barrierInFields fields).or (stop.map fun s => s.2.barrier)
  | .tooDeep d => barrier? d

def barrierInItems : List Draft → Option Fault
  | [] => none
  | d :: rest => (barrier? d).or (barrierInItems rest)

def barrierInFields : List (Key × Draft) → Option Fault
  | [] => none
  | (_, d) :: rest => (barrier? d).or (barrierInFields rest)

end

end Draft

/-- A JSON text: its value as far as it goes, and whether anything follows the value. -/
structure Document where
  root : Draft
  trailing : Bool

def Document.ofText (text : String) : Document :=
  let tokens := Token.scan text
  let r := Draft.readValue (4 * tokens.length + 4) Draft.depthLimit tokens
  ⟨r.value, match r.rest? with
    | some (_ :: _) => true
    | _ => false⟩

end TableQuery.Json
