import TableQuery.Rows.Row

namespace TableQuery

def gather {α : Type} (keyed : List (String × α)) : List (String × List α) :=
  (keyed.map Prod.fst).eraseDups.map fun key =>
    (key, (keyed.filter fun x => x.1 = key).map Prod.snd)

/-- The rows that share the values of the grouping fields. -/
structure Group where
  keys : List Json
  members : List Row

namespace Group

/-- The value a row is grouped under; none when its period starts before the calendar. -/
def keyValue? (r : Row) (g : GroupField) : Option Json :=
  let cell := (r.get? (outputName g.field)).getD .null
  match g.bucket with
  | some b => if cell.isNull then some cell else Cell.bucket? cell b
  | none => some cell

def keyValues? (groupBy : List GroupField) (r : Row) : Option (List Json) :=
  groupBy.mapM (keyValue? r)

def ofMembers : List (List Json × Row) → Group
  | [] => ⟨[], []⟩
  | (keys, r) :: rest => ⟨keys, r :: rest.map Prod.snd⟩

def ofKeyed (keyed : List (List Json × Row)) : List Group :=
  (gather (keyed.map fun x => (Cell.groupKey (x.1.map some), x))).map fun g => ofMembers g.2

/-- Without grouping fields there is one group, also of no rows. -/
def ofRows? (groupBy : List GroupField) (rows : List Row) : Option (List Group) :=
  if groupBy.isEmpty then some [⟨[], rows⟩]
  else (rows.mapM fun r => (keyValues? groupBy r).map fun keys => (keys, r)).map ofKeyed

def keyOf (groupBy : List GroupField) (g : Group) (field : String) : Option Json :=
  ((groupBy.zip g.keys).find? fun p => p.1.field = field).map Prod.snd

end Group
end TableQuery
