import TableQuery.Execution.Path
import TableQuery.Json.Basic
import TableQuery.Rows.Interpretation
import TableQuery.Sql.Compilation

namespace TableQuery

structure Plan where
  sql : String
  path : ExecutionPath
  capability : Capability

namespace Query

/-- Fetches the raw rows; they are not capped, since the cap applies to the result. -/
def rawSql (q : Query) (d : Dialect) (table : String) : String := q.rawQuery.sql d table false

def plan (q : Query) (d : Dialect) (table : String) : Plan where
  sql := if (q.path d).isFallback then q.rawSql d table else q.sql d table true
  path := q.path d
  capability := q.capability d

end Query

def Capability.encode : Capability → Json
  | .native => .obj [("kind", .str "native")]
  | .requiresFallback labels =>
    .obj [("kind", .str "requires_fallback"), ("aliases", .ofStrings labels)]

def Plan.encode (p : Plan) : Json :=
  .obj [("sql", .str p.sql), ("path", .str p.path.name), ("capability", p.capability.encode)]

end TableQuery
