import TableQuery.Sources.Definition

namespace TableQuery

structure Catalog (α : Type) where
  entries : List (String × α)

namespace Catalog

variable {α : Type}

def empty : Catalog α := ⟨[]⟩

def find? (c : Catalog α) (id : String) : Option α :=
  (c.entries.find? fun e => e.1 = id).map Prod.snd

def contains (c : Catalog α) (id : String) : Bool := (c.find? id).isSome

def erase (c : Catalog α) (id : String) : Catalog α := ⟨c.entries.filter fun e => e.1 ≠ id⟩

def put (c : Catalog α) (id : String) (x : α) : Catalog α := ⟨(c.erase id).entries ++ [(id, x)]⟩

def putNew (c : Catalog α) (id : String) (x : α) : Catalog α :=
  if c.contains id then c else c.put id x

def size (c : Catalog α) : Nat := c.entries.length

end Catalog
structure StoredDefinition where
  name : String
  kind : SourceKind
  location : String
  createdAt : String
deriving DecidableEq, Repr

abbrev Registry := Catalog StoredDefinition

namespace Registry

def storedForm (d : SourceDefinition) : StoredDefinition :=
  ⟨d.name, d.kind, d.location, d.createdAt.stamp⟩

def unreadableTime (e : Calendar.ScanError) : Failure :=
  ⟨.storage, "Conversion error from type Text at index: 4, " ++ e.message⟩

def definitionOf (id : String) (s : StoredDefinition) : Except Failure SourceDefinition :=
  match Calendar.Instant.readStrict s.createdAt.toList with
  | .ok createdAt => .ok ⟨id, s.name, s.kind, s.location, createdAt⟩
  | .error e => .error (unreadableTime e)

def save (r : Registry) (d : SourceDefinition) : Registry := Catalog.put r d.id (storedForm d)

def get? (r : Registry) (id : String) : Except Failure (Option SourceDefinition) :=
  match Catalog.find? r id with
  | none => .ok none
  | some s => (definitionOf id s).map some

def isLater (a b : String × StoredDefinition) : Bool := !(a.2.createdAt < b.2.createdAt)

/-- The latest first. -/
def list (r : Registry) : Except Failure (List SourceDefinition) :=
  (r.entries.mergeSort isLater).mapM fun e => definitionOf e.1 e.2

end Registry
end TableQuery
