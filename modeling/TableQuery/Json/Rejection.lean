import TableQuery.Json.Fault
import TableQuery.Json.Printer
import TableQuery.Text.Ranges

namespace TableQuery.Text

def codePointText (c : Char) : List Char :=
  '\\' :: 'u' :: '\x7b' :: (Nat.toDigits 16 c.toNat ++ ['\x7d'])

def debugChar (c : Char) : List Char :=
  if c = '\x00' then ['\\', '0']
  else if c = '\t' then ['\\', 't']
  else if c = '\n' then ['\\', 'n']
  else if c = '\r' then ['\\', 'r']
  else if c = '"' then ['\\', '"']
  else if c = '\\' then ['\\', '\\']
  else if 0x20 ≤ c.toNat && c.toNat < 0x7F then [c]
  else if inRanges invisibleRanges c then codePointText c
  else [c]

def debugQuoted (s : String) : String :=
  String.ofList ('"' :: s.toList.flatMap debugChar ++ ['"'])

end TableQuery.Text

namespace TableQuery.Json

inductive Found
  | null
  | bool (b : Bool)
  | int (n : Int)
  | float (x : Float)
  | str (s : String)
  | list
  | object

def Found.text : Found → String
  | .null => "null"
  | .bool b => "boolean `" ++ (if b then "true" else "false") ++ "`"
  | .int n => "integer `" ++ intText n ++ "`"
  | .float x => "floating point `" ++ floatText x ++ "`"
  | .str s => "string " ++ Text.debugQuoted s
  | .list => "sequence"
  | .object => "map"

inductive Reason
  | malformed (fault : Fault)
  | invalidType (found : Found) (expected : String)
  | invalidValue (found : Found) (expected : String)
  | invalidLength (length : Nat) (expected : String)
  | missingField (name : String)
  | duplicateField (name : String)
  | unknownVariant (name : String) (known : List String)
  | noVariantFits (type : String)
  | other (message : String)

def tick (s : String) : String := "`" ++ s ++ "`"

def oneOf : List String → String
  | [] => "there are no variants"
  | [a] => "expected " ++ tick a
  | [a, b] => "expected " ++ tick a ++ " or " ++ tick b
  | names => "expected one of " ++ ", ".intercalate (names.map tick)

def Reason.message : Reason → String
  | .malformed fault => fault.message
  | .invalidType found expected => "invalid type: " ++ found.text ++ ", expected " ++ expected
  | .invalidValue found expected => "invalid value: " ++ found.text ++ ", expected " ++ expected
  | .invalidLength length expected =>
    "invalid length " ++ Nat.repr length ++ ", expected " ++ expected
  | .missingField name => "missing field " ++ tick name
  | .duplicateField name => "duplicate field " ++ tick name
  | .unknownVariant name known => "unknown variant " ++ tick name ++ ", " ++ oneOf known
  | .noVariantFits type => "data did not match any variant of untagged enum " ++ type
  | .other message => message

/-- A step into a value; `hidden` is a field whose name was not read. -/
inductive Segment
  | field (name : String)
  | item (index : Nat)
  | hidden
deriving DecidableEq, Repr

structure Rejection where
  path : List Segment
  reason : Reason

namespace Rejection

def here (reason : Reason) : Rejection := ⟨[], reason⟩

def under (segment : Segment) (r : Rejection) : Rejection := ⟨segment :: r.path, r.reason⟩

def isMalformed (r : Rejection) : Bool :=
  match r.reason with
  | .malformed _ => true
  | _ => false

def message (r : Rejection) : String := r.reason.message

def pathText : List Segment → String → String
  | [], _ => ""
  | .field name :: rest, point => point ++ name ++ pathText rest "."
  | .item index :: rest, _ => "[" ++ Nat.repr index ++ "]" ++ pathText rest "."
  | .hidden :: rest, point => point ++ "?" ++ pathText rest "."

def located (r : Rejection) : String :=
  if r.path.all (· = .hidden) then r.message else pathText r.path "" ++ ": " ++ r.message

end Rejection
end TableQuery.Json
