import TableQuery.Proofs.Execution.Conversation
import TableQuery.Proofs.Rows.FloatIntegers

namespace TableQuery

/-- The first cell of the row is a number, and it is `n`. -/
def Row.Counts (r : Row) (n : Nat) : Prop :=
  ∃ c, r.cells.head? = some c ∧ Cell.number? c.2 = some (intToFloat n)

theorem countOf?_of_counts {r : Row} {n : Nat} (h : r.Counts n) (hn : n ≤ 2 ^ 53) :
    countOf? [r] = some n := by
  obtain ⟨⟨name, cell⟩, hc, hv⟩ := h
  have hp : ¬(n : Int) < 0 := by omega
  have hf : intToFloat n = Float.ofNat n := by
    rw [intToFloat, if_neg hp, Int.natAbs_natCast]
  simp [countOf?, hc, hv, hf, FloatIntegers.toNat_toUInt64_ofNat hn]

namespace Query

theorem page_take (q : Query) (rows : List Row) (total : Nat) :
    q.page (rows.take q.rowCap) total = q.page rows total := by
  rw [page, List.take_take, Nat.min_self, page]

theorem finalize?_unordered (q : Query) (rows : List Row) :
    { q with orderBy := [] }.finalize? rows = some (q.page rows rows.length) := rfl

end Query

/-- A source that answers the capped statement with the first rows of a result and the count
statement with their number has the page that the result would have in order: the same rows, columns
and total, and cut off at the same cap. -/
theorem native_page_eq_finalize {q : Query} {s : Source} (table : String) (sent : List String)
    {rows : List Row} {counted : Row} (hn : rows.length ≤ 2 ^ 53)
    (hpage : s.answer sent.length (q.sql s.dialect table true) = .ok (rows.take q.rowCap))
    (hcount : s.answer (sent.length + 1) (q.countSql s.dialect table) = .ok [counted])
    (hcounted : counted.Counts rows.length)
    (hp : Source.reportedFailure? (rows.take q.rowCap) = none)
    (hc : Source.reportedFailure? [counted] = none) :
    ∃ page, { q with orderBy := [] }.finalize? rows = some page ∧
      (q.runNative s table).result sent = .ok page ∧
      ((q.path s.dialect).isFallback = false →
        (q.run s table).result sent = .ok (some page)) := by
  have hrun : (q.runNative s table).result sent = .ok (q.page rows rows.length) := by
    refine Query.runNative_eq_ok_iff.mpr ⟨_, Source.reply_eq_ok_iff.mpr ⟨hpage, hp⟩, ?_⟩
    rw [List.length_take]
    split
    · have hl : min q.rowCap rows.length = rows.length := by omega
      rw [hl, Query.page_take]
    · refine ⟨_, Source.reply_eq_ok_iff.mpr ⟨hcount, hc⟩, ?_⟩
      have hl : max rows.length (min q.rowCap rows.length) = rows.length := by omega
      rw [countOf?_of_counts hcounted hn, Option.getD_some, hl, Query.page_take]
  refine ⟨_, q.finalize?_unordered rows, hrun, fun hpath => ?_⟩
  rw [Query.run, hpath]
  exact Session.result_map_eq_ok_iff.mpr ⟨_, hrun, rfl⟩

def topAmounts (limit : Nat) : Query where
  join := []
  select := [.column "amount"]
  groupBy := []
  filter := []
  having := []
  orderBy := [⟨"amount", .desc⟩]
  limit := some limit

def amountRows : List Row := [⟨[("amount", .int 7)]⟩, ⟨[("amount", .int 5)]⟩]

def totalRow : Row := ⟨[("total_rows", .int 2)]⟩

def amountSource (limit : Nat) : Source :=
  .ofAnswers .sqlite (.ok ⟨[], []⟩) [.ok (amountRows.take limit), .ok [totalRow]]

theorem topAmounts_pages :
    ((topAmounts 0).run (amountSource 0) "orders").result [] =
        .ok (some ⟨[], ["amount"], 2, true⟩) ∧
      ((topAmounts 2).run (amountSource 2) "orders").result [] =
        .ok (some ⟨amountRows, ["amount"], 2, false⟩) := by
  have hcounts : totalRow.Counts amountRows.length := ⟨("total_rows", .int 2), rfl, rfl⟩
  have hn : amountRows.length ≤ 2 ^ 53 := by decide
  obtain ⟨noRow, hnone, -, hrunNone⟩ :=
    native_page_eq_finalize (q := topAmounts 0) (s := amountSource 0) "orders" []
      hn rfl rfl hcounts rfl rfl
  obtain ⟨both, hboth, -, hrunBoth⟩ :=
    native_page_eq_finalize (q := topAmounts 2) (s := amountSource 2) "orders" []
      hn rfl rfl hcounts rfl rfl
  obtain rfl := Option.some.inj hnone
  obtain rfl := Option.some.inj hboth
  exact ⟨hrunNone rfl, hrunBoth rfl⟩

end TableQuery
