import TableQuery.Proofs.Rows.GroupKeys
import TableQuery.Proofs.Rows.Groups
import TableQuery.Proofs.Rows.RawColumns

namespace TableQuery

namespace Query

variable {q : Query}

/-- Row by row the same cells under the names of the fetched columns. -/
def FetchAlike (q : Query) (raw raw' : List Row) : Prop :=
  List.Forall₂ (fun r s => ∀ f ∈ q.rawFields, r.get? (outputName f) = s.get? (outputName f)) raw raw'

/-- Whatever is read is fetched: `*` is not grouped by, or nothing else is read. -/
def FetchesGroups (q : Query) : Prop :=
  "*" ∈ q.groupBy.map GroupField.field → q.rawFields = ["*"]

/-- Two rows that are read alike. -/
def ReadAlike (q : Query) (p : Row × Row) : Prop :=
  ∀ f ∈ q.readFields, p.1.get? (outputName f) = p.2.get? (outputName f)

theorem FetchAlike.exists_pairs {raw raw' : List Row} (h : q.FetchAlike raw raw') :
    ∃ pairs : List (Row × Row), pairs.map Prod.fst = raw ∧ pairs.map Prod.snd = raw' ∧
      ∀ p ∈ pairs, ∀ f ∈ q.rawFields, p.1.get? (outputName f) = p.2.get? (outputName f) := by
  obtain ⟨hl, hz⟩ := List.forall₂_iff_zip.mp h
  exact ⟨raw.zip raw', List.map_fst_zip (Nat.le_of_eq hl), List.map_snd_zip (Nat.le_of_eq hl.symm),
    fun _ hp => hz hp⟩

theorem mem_rawFields_of_read (hs : .column "*" ∉ q.select) (hf : q.FetchesGroups) {field : String}
    (h : field ∈ q.readFields) : field ∈ q.rawFields := by
  by_cases he : field = "*"
  · subst he
    suffices hg : "*" ∈ q.groupBy.map GroupField.field by
      rw [hf hg]
      exact List.mem_singleton_self _
    refine (List.mem_append.mp h).resolve_left fun hm => ?_
    obtain ⟨x, hx, hr⟩ := List.mem_filterMap.mp hm
    cases x with
    | window w => cases hr
    | column other =>
        obtain rfl := Option.some.inj hr
        exact hs (mem_baseSelect.mp hx).1
    | aggregate a =>
        by_cases ha : a.field = "*" <;> simp [SelectField.read?, AggregateField.countsRows, ha] at hr
  · exact (mem_rawFields_iff he).mpr h

section Alike

variable {pairs : List (Row × Row)} (h : ∀ p ∈ pairs, q.ReadAlike p)

include h

theorem keyValues?_alike {p : Row × Row} (hp : p ∈ pairs) :
    Group.keyValues? q.groupBy p.1 = Group.keyValues? q.groupBy p.2 := by
  have hv : q.groupBy.map (Group.keyValue? p.1) = q.groupBy.map (Group.keyValue? p.2) :=
    List.map_congr_left fun g hg => Group.keyValue?_congr (h p hp g.field (mem_readFields_of_group hg))
  apply Option.ext
  intro keys
  rw [Group.keyValues?, Group.keyValues?, mapM_eq_some_iff, mapM_eq_some_iff, hv]

/-- The row of a group depends on the cells that are read. -/
theorem groupRow_alike (keys : List Json) :
    q.groupRow ⟨keys, pairs.map Prod.fst⟩ = q.groupRow ⟨keys, pairs.map Prod.snd⟩ := by
  have hcell {field : String} (hf : .column field ∈ q.baseSelect) :
      q.groupCell ⟨keys, pairs.map Prod.fst⟩ field =
        q.groupCell ⟨keys, pairs.map Prod.snd⟩ field := by
    have hfirst : ((pairs.map Prod.fst).head?.bind fun r => r.get? (outputName field)) =
        (pairs.map Prod.snd).head?.bind fun r => r.get? (outputName field) := by
      cases pairs with
      | nil => rfl
      | cons p rest => exact h p List.mem_cons_self field (mem_readFields_of_column hf)
    simp only [groupCell, Group.keyOf, hfirst]
  have haggregate {a : AggregateField} (ha : .aggregate a ∈ q.baseSelect) :
      Aggregate.compute a (pairs.map Prod.fst) = Aggregate.compute a (pairs.map Prod.snd) :=
    Aggregate.compute_congr a fun hr p hp =>
      h p hp a.field (mem_readFields_of_aggregate (mem_aggregates.mpr ha) hr)
  rw [groupRow, groupRow, groupCells, groupCells]
  congr 2
  apply List.filterMap_congr
  intro x hx
  cases x with
  | window w => rfl
  | column field => simp only [hcell hx]
  | aggregate a => simp only [haggregate hx]

theorem rowKey_alike {p : Row × Row} (hp : p ∈ pairs) :
    Group.rowKey q.groupBy p.1 = Group.rowKey q.groupBy p.2 := by
  rw [Group.rowKey, Group.rowKey, Group.keysOf, Group.keysOf, keyValues?_alike h hp]

theorem withKey_alike (key : String) :
    q.groupRow (Group.withKey q.groupBy (pairs.map Prod.fst) key) =
      q.groupRow (Group.withKey q.groupBy (pairs.map Prod.snd) key) := by
  let together := pairs.filter fun p => Group.rowKey q.groupBy p.1 = key
  have htogether {p : Row × Row} (hp : p ∈ together) : p ∈ pairs := List.mem_of_mem_filter hp
  have hfst : (pairs.map Prod.fst).filter (fun r => Group.rowKey q.groupBy r = key) =
      together.map Prod.fst := by
    rw [List.filter_map]
    rfl
  have hsnd : (pairs.map Prod.snd).filter (fun r => Group.rowKey q.groupBy r = key) =
      together.map Prod.snd := by
    rw [List.filter_map]
    congr 1
    apply List.filter_congr
    intro p hp
    rw [Function.comp_apply, ← rowKey_alike h hp]
  have hkeys : ((together.map Prod.fst).head?.map (Group.keysOf q.groupBy)).getD [] =
      ((together.map Prod.snd).head?.map (Group.keysOf q.groupBy)).getD [] := by
    cases ht : together with
    | nil => rfl
    | cons p rest =>
        have hp : p ∈ pairs := htogether (ht ▸ List.mem_cons_self)
        simp only [List.map_cons, List.head?_cons, Option.map_some, Option.getD_some, Group.keysOf,
          keyValues?_alike h hp]
  rw [Group.withKey, Group.withKey, hfst, hsnd, hkeys]
  exact groupRow_alike (fun p hp => h p (htogether hp)) _

theorem aggregate?_alike :
    q.aggregate? (pairs.map Prod.fst) = q.aggregate? (pairs.map Prod.snd) := by
  by_cases hg : q.groupBy = []
  · simp only [aggregate?, hg, Group.ofRows?, List.isEmpty_nil, if_true, Option.map_some,
      List.map_cons, List.map_nil, groupRow_alike h]
  by_cases hn : ∃ p ∈ pairs, Group.keyValues? q.groupBy p.1 = none
  · obtain ⟨p, hp, hk⟩ := hn
    have hk' := hk
    rw [keyValues?_alike h hp] at hk'
    rw [aggregate?_eq_none_iff.mpr ⟨p.1, List.mem_map_of_mem hp, keyValues?_eq_none_iff.mp hk⟩,
      aggregate?_eq_none_iff.mpr ⟨p.2, List.mem_map_of_mem hp, keyValues?_eq_none_iff.mp hk'⟩]
  · have hfst : ∀ r ∈ pairs.map Prod.fst, Group.keyValues? q.groupBy r ≠ none := by
      intro r hr hk
      obtain ⟨p, hp, rfl⟩ := List.mem_map.mp hr
      exact hn ⟨p, hp, hk⟩
    have hsnd : ∀ r ∈ pairs.map Prod.snd, Group.keyValues? q.groupBy r ≠ none := by
      intro r hr hk
      obtain ⟨p, hp, rfl⟩ := List.mem_map.mp hr
      exact hn ⟨p, hp, (keyValues?_alike h hp).trans hk⟩
    have hkeys : (pairs.map Prod.fst).map (Group.rowKey q.groupBy) =
        (pairs.map Prod.snd).map (Group.rowKey q.groupBy) := by
      rw [List.map_map, List.map_map]
      exact List.map_congr_left fun p hp => rowKey_alike h hp
    rw [aggregate?_eq hg hfst, aggregate?_eq hg hsnd, hkeys]
    congr 1
    apply List.map_congr_left
    intro key _
    exact withKey_alike h key

end Alike

theorem aggregate?_congr (hs : .column "*" ∉ q.select) (hf : q.FetchesGroups) {raw raw' : List Row}
    (h : q.FetchAlike raw raw') : q.aggregate? raw = q.aggregate? raw' := by
  obtain ⟨pairs, rfl, rfl, hp⟩ := h.exists_pairs
  exact aggregate?_alike fun p hm f hr => hp p hm f (mem_rawFields_of_read hs hf hr)

theorem interpret?_congr (hg : q.groups = true) {raw raw' : List Row}
    (h : q.aggregate? raw = q.aggregate? raw') : q.interpret? raw = q.interpret? raw' := by
  rw [interpret?, interpret?, baseRows?, baseRows?, if_pos hg, if_pos hg, h]

section Star

def starRow : Row := ⟨[("*", .str "2024-01-01")]⟩

theorem get?_starRow {field : String} (h : field ≠ "*") : starRow.get? (outputName field) = none := by
  have hn : ¬"*" = outputName field := fun he => h (eq_star_of_outputName_eq he.symm)
  simp [starRow, Row.get?, hn]

theorem keyValue?_starRow (g : GroupField) :
    Group.keyValue? starRow g =
      some (if g.field = "*" then .str "2024-01-01" else .null) := by
  by_cases hf : g.field = "*"
  · rw [if_pos hf]
    cases g with
    | plain field =>
        obtain rfl : field = "*" := hf
        rfl
    | bucketed field b =>
        obtain rfl : field = "*" := hf
        cases b <;> rfl
  · rw [if_neg hf, Group.keyValue?, get?_starRow hf]
    cases g.bucket <;> rfl

theorem keyValue?_empty (g : GroupField) : Group.keyValue? ⟨[]⟩ g = some .null := by
  cases g <;> rfl

theorem keysOf_starRow :
    Group.keysOf q.groupBy starRow =
      q.groupBy.map fun g => if g.field = "*" then .str "2024-01-01" else .null := by
  have h : Group.keyValues? q.groupBy starRow =
      some (q.groupBy.map fun g => if g.field = "*" then .str "2024-01-01" else .null) := by
    rw [Group.keyValues?, mapM_eq_some_iff, List.map_map]
    exact List.map_congr_left fun g _ => keyValue?_starRow g
  rw [Group.keysOf, h, Option.getD_some]

theorem keysOf_empty : Group.keysOf q.groupBy ⟨[]⟩ = q.groupBy.map fun _ => .null := by
  have h : Group.keyValues? q.groupBy ⟨[]⟩ = some (q.groupBy.map fun _ => .null) := by
    rw [Group.keyValues?, mapM_eq_some_iff, List.map_map]
    exact List.map_congr_left fun g _ => keyValue?_empty g
  rw [Group.keysOf, h, Option.getD_some]

theorem rowKey_starRow_ne (h : "*" ∈ q.groupBy.map GroupField.field) :
    Group.rowKey q.groupBy starRow ≠ Group.rowKey q.groupBy ⟨[]⟩ := by
  intro he
  rw [Group.rowKey, Group.rowKey, keysOf_starRow, keysOf_empty, List.map_map, List.map_map] at he
  have hl (f g : GroupField → Option Json) : (q.groupBy.map f).length = (q.groupBy.map g).length := by
    rw [List.length_map, List.length_map]
  have ha := (Cell.agree_iff_of_unmarked (hl _ _) ?_).mp he
  · obtain ⟨g, hg, hf⟩ := List.mem_map.mp h
    have hm := (Cell.agree_iff.mp ha).2
    rw [List.map_map, List.map_map] at hm
    have hgm := List.map_inj_left.mp hm g hg
    simp [hf, Cell.isMissing, Json.isNull] at hgm
  · intro part hp t ht
    rcases List.mem_append.mp hp with hp | hp
    · obtain ⟨g, -, rfl⟩ := List.mem_map.mp hp
      by_cases hf : g.field = "*"
      · obtain rfl : "2024-01-01" = t := by simpa [hf, Cell.text?] using ht
        decide
      · simp [hf, Cell.text?] at ht
    · obtain ⟨g, -, rfl⟩ := List.mem_map.mp hp
      cases ht

theorem aggregate?_starRow_ne (h : "*" ∈ q.groupBy.map GroupField.field) :
    q.aggregate? [starRow, ⟨[]⟩] ≠ q.aggregate? [⟨[]⟩, ⟨[]⟩] := by
  have hg : q.groupBy ≠ [] := by
    rintro hg
    simp [hg] at h
  have hr {r : Row} (hr : r = starRow ∨ r = ⟨[]⟩) : Group.keyValues? q.groupBy r ≠ none := by
    rw [Group.keyValues?, Ne, mapM_eq_none_iff]
    rintro ⟨g, -, hn⟩
    rcases hr with rfl | rfl
    · rw [keyValue?_starRow] at hn
      cases hn
    · rw [keyValue?_empty] at hn
      cases hn
  rw [aggregate?_eq hg (by simpa using ⟨hr (.inl rfl), hr (.inr rfl)⟩),
    aggregate?_eq hg (by simpa using hr (.inr rfl))]
  intro he
  have hl := congrArg List.length (Option.some.inj he)
  simp [List.eraseDups_cons, Ne.symm (rowKey_starRow_ne h)] at hl

theorem fetchAlike_starRow (h : "*" ∉ q.rawFields) :
    q.FetchAlike [starRow, ⟨[]⟩] [⟨[]⟩, ⟨[]⟩] := by
  refine .cons ?_ (.cons (fun _ _ => rfl) .nil)
  intro f hf
  exact get?_starRow (ne_of_mem_of_not_mem hf h)

end Star

end Query

/-- Groups and aggregates depend on the fetched cells alone exactly if `*` is not grouped by beside
fetched columns. Then all later stages depend on nothing else either, as far as no plain column is
called `*`. -/
theorem raw_fetch_suffices_iff {q : Query} (hg : q.groups = true) (hs : .column "*" ∉ q.select) :
    ((∀ raw raw', q.FetchAlike raw raw' → q.aggregate? raw = q.aggregate? raw') ↔
        q.FetchesGroups) ∧
      (q.FetchesGroups → ∀ raw raw', q.FetchAlike raw raw' →
        q.interpret? raw = q.interpret? raw' ∧
          (q.interpret? raw).bind q.finalize? = (q.interpret? raw').bind q.finalize?) := by
  refine ⟨⟨?_, ?_⟩, ?_⟩
  · intro h hm
    by_contra hr
    have hstar : "*" ∉ q.rawFields := fun hr' => hr (Query.star_mem_rawFields_iff.mp hr')
    exact Query.aggregate?_starRow_ne hm (h _ _ (Query.fetchAlike_starRow hstar))
  · intro hf raw raw' h
    exact Query.aggregate?_congr hs hf h
  · intro hf raw raw' h
    have hi := Query.interpret?_congr hg (Query.aggregate?_congr hs hf h)
    exact ⟨hi, by rw [hi]⟩

def medianBy (field : String) : Query where
  join := []
  select := [.aggregate ⟨"amount", .median, "mid", none⟩]
  groupBy := [.plain field]
  filter := []
  having := []
  orderBy := []
  limit := none

theorem medianBy_region_unchanged :
    (medianBy "region").groups = true ∧ .column "*" ∉ (medianBy "region").select ∧
      (medianBy "region").FetchesGroups ∧
      (medianBy "region").interpret? [⟨[("amount", .int 1), ("region", .str "eu"), ("note", .null)]⟩] =
        (medianBy "region").interpret? [⟨[("amount", .int 1), ("region", .str "eu")]⟩] := by
  have hg : (medianBy "region").groups = true := rfl
  have hs : .column "*" ∉ (medianBy "region").select := by simp [medianBy]
  have hread : (medianBy "region").rawFields = ["amount", "region"] := by decide
  have hf : (medianBy "region").FetchesGroups := by
    intro h
    exact absurd h (by decide)
  refine ⟨hg, hs, hf, ((raw_fetch_suffices_iff hg hs).2 hf _ _ (.cons ?_ .nil)).1⟩
  intro f hr
  obtain rfl | rfl : f = "amount" ∨ f = "region" := by simpa [hread] using hr
  · rfl
  · rfl

/-- Rows that are fetched alike, but not grouped alike. -/
theorem medianBy_star_differs :
    (medianBy "*").groups = true ∧ .column "*" ∉ (medianBy "*").select ∧
      (medianBy "*").FetchAlike
        [⟨[("amount", .int 1), ("*", .str "a")]⟩, ⟨[("amount", .int 2), ("*", .str "b")]⟩]
        [⟨[("amount", .int 1)]⟩, ⟨[("amount", .int 2)]⟩] ∧
      ((medianBy "*").interpret?
        [⟨[("amount", .int 1), ("*", .str "a")]⟩, ⟨[("amount", .int 2), ("*", .str "b")]⟩]).map
          List.length = some 2 ∧
      ((medianBy "*").interpret? [⟨[("amount", .int 1)]⟩, ⟨[("amount", .int 2)]⟩]).map
        List.length = some 1 := by
  have hread : (medianBy "*").rawFields = ["amount"] := by decide
  refine ⟨rfl, by simp [medianBy], .cons ?_ (.cons ?_ .nil), rfl, rfl⟩
  · intro f hr
    obtain rfl : f = "amount" := by simpa [hread] using hr
    rfl
  · intro f hr
    obtain rfl : f = "amount" := by simpa [hread] using hr
    rfl

end TableQuery
