import TableQuery.Execution.Plan

namespace TableQuery

open Sql

structure Page.CutsOff (p p' : Page) : Prop where
  columns : p.columns = p'.columns
  totalRows : p.totalRows = p'.totalRows
  rows : p.rows <+: p'.rows

namespace Sql.Statement

theorem parts_ne_nil (d : Dialect) (s : Statement) : s.parts d ≠ [] := by
  cases s with
  | plain body ending => exact List.append_ne_nil_of_left_ne_nil (List.cons_ne_nil _ _) _
  | windowed base windows ending => exact List.cons_ne_nil _ _

end Sql.Statement

namespace Query

variable {q : Query}

def withLimit (q : Query) (limit : Option Nat) : Query := { q with limit := limit }

theorem parts_capped (q : Query) (d : Dialect) (table : String) :
    (q.statement table true).parts d =
      (q.statement table false).parts d ++ ["LIMIT " ++ Nat.repr q.rowCap] := by
  unfold statement
  split <;> simp [Statement.parts, Ending.parts, ending]

theorem sql_capped (q : Query) (d : Dialect) (table : String) :
    q.sql d table true = q.sql d table false ++ " LIMIT " ++ Nat.repr q.rowCap := by
  have hl : " LIMIT " = " " ++ "LIMIT " := by decide
  rw [sql, Statement.text, parts_capped,
    String.intercalate_append_of_ne_nil (Statement.parts_ne_nil _ _) (List.cons_ne_nil _ _),
    String.intercalate_singleton, hl, ← String.append_assoc, ← String.append_assoc]
  rfl

theorem rowCap_withLimit_le {n n' : Nat} (h : n ≤ n') :
    (q.withLimit (some n)).rowCap ≤ (q.withLimit (some n')).rowCap :=
  Nat.le_min.mpr ⟨Nat.le_trans (Nat.min_le_left _ _) h, Nat.min_le_right _ _⟩

theorem page_cutsOff {limit limit' : Option Nat}
    (h : (q.withLimit limit).rowCap ≤ (q.withLimit limit').rowCap) (rows : List Row) (total : Nat) :
    ((q.withLimit limit).page rows total).CutsOff ((q.withLimit limit').page rows total) where
  columns := rfl
  totalRows := rfl
  rows := List.IsPrefix.map _ (List.take_prefix_take_left h)

theorem answer_cutsOff {limit limit' : Option Nat}
    (h : (q.withLimit limit).rowCap ≤ (q.withLimit limit').rowCap) (raw : List Row) :
    Option.Rel Page.CutsOff (((q.withLimit limit).interpret? raw).bind (q.withLimit limit).finalize?)
      (((q.withLimit limit').interpret? raw).bind (q.withLimit limit').finalize?) := by
  have hi (limit : Option Nat) : (q.withLimit limit).interpret? raw = q.interpret? raw := rfl
  have hs (limit : Option Nat) (rows : List Row) : (q.withLimit limit).finalize? rows =
      (sortRows? q.orderBy rows).map fun sorted => (q.withLimit limit).page sorted rows.length := rfl
  rw [hi, hi]
  cases q.interpret? raw with
  | none => exact .none
  | some rows =>
      rw [Option.bind_some, Option.bind_some, hs, hs]
      cases sortRows? q.orderBy rows with
      | none => exact .none
      | some sorted => exact .some (page_cutsOff h sorted rows.length)

end Query

/-- The capped statement is the uncapped one with a LIMIT of at most 10000 behind it. Limits change
neither the uncapped statement nor the one that counts its rows, nor the fetch of the raw rows; and
over raw rows, of two limits the smaller one has the first rows of the other's page, under the same
columns and with the same total. -/
theorem limit_only_truncates (q : Query) (d : Dialect) (table : String) (limit limit' : Option Nat)
    (h : (q.withLimit limit).rowCap ≤ (q.withLimit limit').rowCap) :
    q.sql d table true =
        q.sql d table false ++ " LIMIT " ++ Nat.repr (min (q.limit.getD 10000) 10000) ∧
      ((q.withLimit limit).sql d table false = (q.withLimit limit').sql d table false ∧
        (q.withLimit limit).countSql d table = (q.withLimit limit').countSql d table ∧
        (q.withLimit limit).rawSql d table = (q.withLimit limit').rawSql d table) ∧
      ∀ raw, Option.Rel Page.CutsOff
        (((q.withLimit limit).interpret? raw).bind (q.withLimit limit).finalize?)
        (((q.withLimit limit').interpret? raw).bind (q.withLimit limit').finalize?) :=
  ⟨q.sql_capped d table, ⟨rfl, rfl, rfl⟩, Query.answer_cutsOff h⟩

def lastRegions : Query where
  join := []
  select := [.column "region"]
  groupBy := []
  filter := []
  having := []
  orderBy := [⟨"region", .desc⟩]
  limit := some 20000

def regionRow (region : String) : Row := ⟨[("region", .str region)]⟩

def regionPage (regions : List String) (truncated : Bool) : Page :=
  ⟨regions.map regionRow, ["region"], 2, truncated⟩

theorem lastRegions_truncated :
    (lastRegions.withLimit (some 1)).rowCap ≤ (lastRegions.withLimit (some 2)).rowCap ∧
      lastRegions.sql .postgres "orders" true =
        lastRegions.sql .postgres "orders" false ++ " LIMIT " ++ "10000" ∧
      (regionPage ["us"] true).CutsOff (regionPage ["us", "eu"] false) := by
  have hc : (lastRegions.withLimit (some 1)).rowCap ≤ (lastRegions.withLimit (some 2)).rowCap :=
    Query.rowCap_withLimit_le (by decide)
  have hcap : Nat.repr (min (lastRegions.limit.getD 10000) 10000) = "10000" := by decide
  obtain ⟨hsql, -, hpages⟩ := limit_only_truncates lastRegions .postgres "orders" (some 1) (some 2) hc
  rw [hcap] at hsql
  have hone : ((lastRegions.withLimit (some 1)).interpret? [regionRow "eu", regionRow "us"]).bind
      (lastRegions.withLimit (some 1)).finalize? = some (regionPage ["us"] true) := rfl
  have htwo : ((lastRegions.withLimit (some 2)).interpret? [regionRow "eu", regionRow "us"]).bind
      (lastRegions.withLimit (some 2)).finalize? = some (regionPage ["us", "eu"] false) := rfl
  have hp := hpages [regionRow "eu", regionRow "us"]
  rw [hone, htwo] at hp
  refine ⟨hc, hsql, ?_⟩
  cases hp with
  | some h => exact h

end TableQuery
