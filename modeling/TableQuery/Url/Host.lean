import TableQuery.Url.Address
import TableQuery.Url.Label

namespace TableQuery.Url

inductive Fault
  | emptyHost
  | badDomainName
  | badDomainChar
  | badPort
  | badIPv4
  | badIPv6
  | noScheme
deriving DecidableEq, Repr

def Fault.message : Fault → String
  | .emptyHost => "empty host"
  | .badDomainName => "invalid international domain name"
  | .badDomainChar => "invalid domain character"
  | .badPort => "invalid port number"
  | .badIPv4 => "invalid IPv4 address"
  | .badIPv6 => "invalid IPv6 address"
  | .noScheme => "relative URL without a base"

inductive Host
  | domain (name : String)
  | ipv4 (address : Nat)
  | ipv6 (groups : List Nat)
deriving DecidableEq, Repr

namespace Host

def text : Host → String
  | .domain name => name
  | .ipv4 address => IPv4.text address
  | .ipv6 groups => "[" ++ IPv6.text groups ++ "]"

def isEmpty : Host → Bool
  | .domain name => name.isEmpty
  | _ => false

def readBracketed (inner : List Char) : Except Fault Host :=
  if inner.getLast? = some ']' then
    match IPv6.read? inner.dropLast with
    | some groups => .ok (.ipv6 groups)
    | none => .error .badIPv6
  else .error .badIPv6

def barred : List Char :=
  ['\x00', '\t', '\n', '\r', ' ', '#', '/', ':', '<', '>', '?', '@', '[', '\\', ']', '^', '|']

def readGeneral : List Char → Except Fault Host
  | '[' :: inner => readBracketed inner
  | cs =>
    if cs.any barred.contains then .error .badDomainChar
    else .ok (.domain (encode .controls cs))

def isBarredInDomain (c : Char) : Bool := isControl c || c = '%' || barred.contains c

/-- A domain name in ASCII. Where one label turns, all of them have to be steady. -/
def domainChars? (cs : List Char) : Option (List Char) := do
  let folded ← fold? cs
  let labels ← (Text.splitAt '.' (Text.composed folded)).mapM Label.read?
  if labels.any Label.turns && !labels.all Label.isSteady then none
  let ascii ← labels.mapM Label.ascii?
  some (List.intercalate ['.'] ascii)

def ofDomain (ascii : List Char) : Except Fault Host :=
  if ascii.any isBarredInDomain then .error .badDomainName
  else if ascii.isEmpty then .error .emptyHost
  else if IPv4.endsInNumber ascii then
    match IPv4.read? ascii with
    | some address => .ok (.ipv4 address)
    | none => .error .badIPv4
  else .ok (.domain (String.ofList ascii))

def readDomain (cs : List Char) : Except Fault Host :=
  match Text.Utf8.decode (decodeBytes cs) with
  | .error _ => .error .badDomainName
  | .ok name =>
    match domainChars? name.toList with
    | none => .error .badDomainName
    | some ascii => ofDomain ascii

def readSpecial : List Char → Except Fault Host
  | [] => .error .emptyHost
  | '[' :: inner => readBracketed inner
  | cs => readDomain cs

end Host
end TableQuery.Url
