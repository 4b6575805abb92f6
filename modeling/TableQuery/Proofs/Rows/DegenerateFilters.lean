import TableQuery.Proofs.Rows.HavingTruth

namespace TableQuery

open Sql

namespace Sql.Predicate

end Sql.Predicate

namespace Filter

variable {f : Filter}

end Filter

end TableQuery
