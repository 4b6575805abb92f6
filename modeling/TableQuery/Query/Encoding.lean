import TableQuery.Query.Basic

namespace TableQuery

open Json

def listField {α : Type} (name : String) (encode : α → Json) : List α → List (String × Json)
  | [] => []
  | xs => [(name, .arr (xs.map encode))]

def optionField {α : Type} (name : String) (encode : α → Json) : Option α → List (String × Json)
  | none => []
  | some x => [(name, encode x)]

def OrderTerm.encode (t : OrderTerm) : Json :=
  .obj [("field", .str t.field), ("direction", .str t.direction.name)]

def AggregateField.encode (a : AggregateField) : Json :=
  .obj ([("field", .str a.field), ("aggregate", .str a.function.name), ("as", .str a.label)] ++
    optionField "percentile" .float a.percentile)

def WindowField.encode (w : WindowField) : Json :=
  .obj ([("window", .str w.function.name)] ++
    optionField "field" .str w.field ++
    [("as", .str w.label)] ++
    listField "partitionBy" .str w.partitionBy ++
    listField "orderBy" OrderTerm.encode w.orderBy ++
    optionField "offset" .ofNat w.offset ++
    optionField "default" id w.fallback)

def SelectField.encode : SelectField → Json
  | .column field => .str field
  | .window w => w.encode
  | .aggregate a => a.encode

def GroupField.encode : GroupField → Json
  | .plain field => .str field
  | .bucketed field bucket => .obj [("field", .str field), ("bucket", .str bucket.name)]

def Filter.encode (f : Filter) : Json :=
  .obj ([("field", .str f.field), ("op", .str f.op.name)] ++ optionField "value" id f.value)

def Join.encode (j : Join) : Json :=
  .obj [("table", .str j.table), ("on", .obj [("left", .str j.left), ("right", .str j.right)]),
    ("type", .str j.kind.name)]

def Query.encode (q : Query) : Json :=
  .obj (listField "join" Join.encode q.join ++
    [("select", .arr (q.select.map SelectField.encode))] ++
    listField "groupBy" GroupField.encode q.groupBy ++
    listField "filter" Filter.encode q.filter ++
    listField "having" Filter.encode q.having ++
    listField "orderBy" OrderTerm.encode q.orderBy ++
    optionField "limit" .ofNat q.limit)

end TableQuery
