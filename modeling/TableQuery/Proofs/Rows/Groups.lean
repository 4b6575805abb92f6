import Mathlib.Algebra.GroupWithZero.Nat
import TableQuery.Proofs.Rows.GroupRows
import TableQuery.Proofs.Rows.LostWeeks

namespace TableQuery

theorem eraseDups_concat {α : Type} [DecidableEq α] (xs : List α) (x : α) :
    (xs ++ [x]).eraseDups = if x ∈ xs then xs.eraseDups else xs.eraseDups ++ [x] := by
  rw [List.eraseDups_append, List.cons_removeAll]
  by_cases hx : x ∈ xs <;> simp [hx, List.eraseDups_cons]

section Gather

variable {α : Type}

/-- One more element stands last in the group of its key, or begins one behind the others. -/
def joinGroup (key : String) (a : α) : List (String × List α) → List (String × List α)
  | [] => [(key, [a])]
  | g :: rest => if g.1 = key then (key, g.2 ++ [a]) :: rest else g :: joinGroup key a rest

theorem joinGroup_of_not_mem {key : String} {groups : List (String × List α)}
    (h : key ∉ groups.map Prod.fst) (a : α) : joinGroup key a groups = groups ++ [(key, [a])] := by
  induction groups with
  | nil => rfl
  | cons g rest ih =>
      obtain ⟨hg, hr⟩ : ¬key = g.1 ∧ key ∉ rest.map Prod.fst := by
        simpa only [List.map_cons, List.mem_cons, not_or] using h
      rw [joinGroup, if_neg (Ne.symm hg), ih hr, List.cons_append]

theorem joinGroup_of_mem {key : String} {keys : List String} (hn : keys.Nodup) (hk : key ∈ keys)
    (members : String → List α) (a : α) :
    joinGroup key a (keys.map fun k => (k, members k)) =
      keys.map fun k => (k, if k = key then members k ++ [a] else members k) := by
  induction keys with
  | nil => cases hk
  | cons k keys ih =>
      obtain ⟨hkn, hn⟩ := List.nodup_cons.mp hn
      rw [List.map_cons, List.map_cons, joinGroup]
      by_cases he : k = key
      · subst he
        rw [if_pos rfl, if_pos rfl, List.cons.injEq]
        refine ⟨rfl, List.map_congr_left fun other ho => ?_⟩
        rw [if_neg (ne_of_mem_of_not_mem ho hkn)]
      · rw [if_neg he, if_neg he, ih hn ((List.mem_cons.mp hk).resolve_left (Ne.symm he))]

theorem gather_concat (keyed : List (String × α)) (key : String) (a : α) :
    gather (keyed ++ [(key, a)]) = joinGroup key a (gather keyed) := by
  have hm (k : String) : ((keyed ++ [(key, a)]).filter fun x => x.1 = k).map Prod.snd =
      (keyed.filter fun x => x.1 = k).map Prod.snd ++ if k = key then [a] else [] := by
    by_cases hk : k = key
    · simp [hk]
    · simp [hk, Ne.symm hk]
  simp only [gather, hm, List.map_append, List.map_cons, List.map_nil]
  rw [eraseDups_concat]
  by_cases hk : key ∈ keyed.map Prod.fst
  · rw [if_pos hk, joinGroup_of_mem (nodup_eraseDups _) (List.mem_eraseDups.mpr hk)]
    apply List.map_congr_left
    intro k _
    by_cases he : k = key <;> simp [he]
  · have hnone : (keyed.filter fun x => x.1 = key).map Prod.snd = [] := by
      rw [List.map_eq_nil_iff, List.filter_eq_nil_iff]
      intro x hx he
      exact hk (List.mem_map.mpr ⟨x, hx, by simpa using he⟩)
    rw [if_neg hk, joinGroup_of_not_mem]
    · rw [List.map_append, List.map_singleton, hnone, if_pos rfl, List.nil_append]
      congr 1
      apply List.map_congr_left
      intro k hk'
      rw [if_neg (ne_of_mem_of_not_mem (List.mem_eraseDups.mp hk') hk), List.append_nil]
    · simpa using hk

theorem joinGroup_perm (key : String) (a : α) (groups : List (String × List α)) :
    ((joinGroup key a groups).flatMap Prod.snd).Perm (groups.flatMap Prod.snd ++ [a]) := by
  induction groups with
  | nil => rfl
  | cons g rest ih =>
      rw [joinGroup]
      by_cases hg : g.1 = key
      · rw [if_pos hg, List.flatMap_cons, List.flatMap_cons, List.append_assoc, List.append_assoc]
        exact List.perm_append_comm.append_left g.2
      · rw [if_neg hg, List.flatMap_cons, List.flatMap_cons, List.append_assoc]
        exact ih.append_left g.2

theorem gather_perm (keyed : List (String × α)) :
    ((gather keyed).flatMap Prod.snd).Perm (keyed.map Prod.snd) := by
  induction keyed using List.reverseRecOn with
  | nil => rfl
  | append_singleton keyed x ih =>
      rw [gather_concat, List.map_append, List.map_singleton]
      exact (joinGroup_perm x.1 x.2 _).trans (ih.append_right [x.2])

end Gather

namespace Group

def keysOf (groupBy : List GroupField) (r : Row) : List Json := (keyValues? groupBy r).getD []

def rowKey (groupBy : List GroupField) (r : Row) : String :=
  Cell.groupKey ((keysOf groupBy r).map some)

/-- The rows of a key, in their order and with the key values of the first of them. -/
def withKey (groupBy : List GroupField) (rows : List Row) (key : String) : Group :=
  let members := rows.filter fun r => rowKey groupBy r = key
  ⟨(members.head?.map (keysOf groupBy)).getD [], members⟩

def key (g : Group) : String := Cell.groupKey (g.keys.map some)

variable {groupBy : List GroupField} {rows : List Row}

theorem ofMembers_map (keys : Row → List Json) (members : List Row) :
    ofMembers (members.map fun r => (keys r, r)) = ⟨(members.head?.map keys).getD [], members⟩ := by
  cases members with
  | nil => rfl
  | cons r rest =>
      rw [List.map_cons, ofMembers, List.map_map]
      congr 2
      exact List.map_id rest

theorem keyValues?_eq_some {r : Row} (h : keyValues? groupBy r ≠ none) :
    keyValues? groupBy r = some (keysOf groupBy r) := by
  obtain ⟨keys, hk⟩ := Option.ne_none_iff_exists'.mp h
  rw [keysOf, hk, Option.getD_some]

theorem length_keysOf {r : Row} (h : keyValues? groupBy r ≠ none) :
    (keysOf groupBy r).length = groupBy.length := by
  have hl := congrArg List.length (mapM_eq_some_iff.mp (keyValues?_eq_some h))
  rw [List.length_map, List.length_map] at hl
  exact hl.symm

section Grouped

variable (hg : groupBy ≠ []) (hk : ∀ r ∈ rows, keyValues? groupBy r ≠ none)

include hg hk

/-- The groups are those of the keys that occur. -/
theorem ofRows?_eq :
    ofRows? groupBy rows =
      some ((rows.map (rowKey groupBy)).eraseDups.map (withKey groupBy rows)) := by
  have hkeyed : (rows.mapM fun r => (keyValues? groupBy r).map fun keys => (keys, r)) =
      some (rows.map fun r => (keysOf groupBy r, r)) := by
    rw [mapM_eq_some_iff, List.map_map]
    apply List.map_congr_left
    intro r hr
    rw [keyValues?_eq_some (hk r hr)]
    rfl
  rw [ofRows?, if_neg (by simpa using hg), hkeyed, Option.map_some, ofKeyed, gather]
  simp only [List.map_map, List.filter_map]
  congr 1
  apply List.map_congr_left
  intro key _
  exact ofMembers_map (keysOf groupBy) _

end Grouped

theorem members_withKey_ne_nil {key : String} (h : key ∈ rows.map (rowKey groupBy)) :
    (withKey groupBy rows key).members ≠ [] := by
  obtain ⟨r, hr, he⟩ := List.mem_map.mp h
  apply List.ne_nil_of_mem (a := r)
  exact List.mem_filter.mpr ⟨hr, by simpa using he⟩

theorem exists_keys_withKey {key : String} (h : key ∈ rows.map (rowKey groupBy)) :
    ∃ r ∈ (withKey groupBy rows key).members, (withKey groupBy rows key).keys = keysOf groupBy r := by
  have hne := members_withKey_ne_nil h
  cases hm : (withKey groupBy rows key).members with
  | nil => exact absurd hm hne
  | cons r rest =>
      refine ⟨r, List.mem_cons_self, ?_⟩
      change (((withKey groupBy rows key).members.head?).map (keysOf groupBy)).getD [] = _
      rw [hm]
      rfl

theorem mem_withKey {key : String} {r : Row} :
    r ∈ (withKey groupBy rows key).members ↔ r ∈ rows ∧ rowKey groupBy r = key := by
  rw [withKey, List.mem_filter, decide_eq_true_eq]

theorem keyed_withKey (hk : ∀ r ∈ rows, keyValues? groupBy r ≠ none) {key : String}
    (h : key ∈ rows.map (rowKey groupBy)) : (withKey groupBy rows key).Keyed groupBy := by
  obtain ⟨r, hr, hkeys⟩ := exists_keys_withKey h
  rw [Keyed, hkeys, length_keysOf (hk r (mem_withKey.mp hr).1)]

theorem key_withKey {key : String} (h : key ∈ rows.map (rowKey groupBy)) :
    (withKey groupBy rows key).key = key := by
  obtain ⟨r, hr, hkeys⟩ := exists_keys_withKey h
  rw [Group.key, hkeys]
  exact (mem_withKey.mp hr).2

theorem keyValues?_ne_none {groups : List Group} (h : ofRows? groupBy rows = some groups) :
    ∀ r ∈ rows, keyValues? groupBy r ≠ none := by
  intro r hr hn
  unfold ofRows? at h
  split at h
  · next he =>
      rw [List.isEmpty_iff.mp he] at hn
      cases hn
  · obtain ⟨keyed, hk, -⟩ := Option.map_eq_some_iff.mp h
    obtain ⟨keys, hs⟩ := exists_keyValues hk hr
    rw [hn] at hs
    cases hs

theorem keyed_of_mem {groups : List Group} (h : ofRows? groupBy rows = some groups) {g : Group}
    (hm : g ∈ groups) : g.Keyed groupBy := by
  by_cases hg : groupBy = []
  · subst hg
    obtain rfl := Option.some.inj h
    obtain rfl := List.mem_singleton.mp hm
    rfl
  · have hk := keyValues?_ne_none h
    rw [ofRows?_eq hg hk] at h
    obtain rfl := Option.some.inj h
    obtain ⟨key, hkey, rfl⟩ := List.mem_map.mp hm
    exact keyed_withKey hk (List.mem_eraseDups.mp hkey)

/-- Every row is a member of one group, and of that group once. -/
theorem members_perm {groups : List Group} (h : ofRows? groupBy rows = some groups) :
    (groups.flatMap members).Perm rows := by
  by_cases hg : groupBy = []
  · subst hg
    obtain rfl := Option.some.inj h
    simp
  · rw [ofRows?_eq hg (keyValues?_ne_none h)] at h
    obtain rfl := Option.some.inj h
    have hp := gather_perm (rows.map fun r => (rowKey groupBy r, r))
    simp only [gather, List.filter_map, List.map_map] at hp
    rw [List.flatMap_map] at hp ⊢
    simpa [Function.comp_def, withKey] using hp

end Group

/-- The groups of raw rows: which they are, in which order, and what their rows count. -/
structure Query.DividesInto (q : Query) (raw : List Row) (groups : List Group) : Prop where
  rows : q.aggregate? raw = some (groups.map q.groupRow)
  perm : (groups.flatMap Group.members).Perm raw
  single : q.groupBy = [] → groups = [⟨[], raw⟩]
  keys : q.groupBy ≠ [] → groups.map Group.key = (raw.map (Group.rowKey q.groupBy)).eraseDups
  members : q.groupBy ≠ [] →
    ∀ g ∈ groups, g.members = raw.filter fun r => Group.rowKey q.groupBy r = g.key
  counted : ∀ column a, q.entryFor? column = some (.aggregate a) → a.countsRows = true →
    a.function.isCounting = true →
      ∃ counts : List Nat, counts.sum = raw.length ∧
        groups.map (fun g => (q.groupRow g).get? column) = counts.map fun n => some (.ofNat n)

namespace Query

variable {q : Query} {raw : List Row} {groups : List Group}

theorem aggregate?_eq (hg : q.groupBy ≠ [])
    (hk : ∀ r ∈ raw, Group.keyValues? q.groupBy r ≠ none) :
    q.aggregate? raw = some ((raw.map (Group.rowKey q.groupBy)).eraseDups.map fun key =>
      q.groupRow (Group.withKey q.groupBy raw key)) := by
  rw [aggregate?, Group.ofRows?_eq hg hk, Option.map_some, List.map_map]
  rfl

theorem map_key_groups (hg : q.groupBy ≠ []) (h : Group.ofRows? q.groupBy raw = some groups) :
    groups.map Group.key = (raw.map (Group.rowKey q.groupBy)).eraseDups := by
  rw [Group.ofRows?_eq hg (Group.keyValues?_ne_none h)] at h
  obtain rfl := Option.some.inj h
  rw [List.map_map]
  conv_rhs => rw [← List.map_id ((raw.map (Group.rowKey q.groupBy)).eraseDups)]
  apply List.map_congr_left
  intro key hk
  exact Group.key_withKey (List.mem_eraseDups.mp hk)

theorem members_eq_filter (hg : q.groupBy ≠ []) (h : Group.ofRows? q.groupBy raw = some groups)
    {g : Group} (hm : g ∈ groups) :
    g.members = raw.filter fun r => Group.rowKey q.groupBy r = g.key := by
  rw [Group.ofRows?_eq hg (Group.keyValues?_ne_none h)] at h
  obtain rfl := Option.some.inj h
  obtain ⟨key, hk, rfl⟩ := List.mem_map.mp hm
  rw [Group.key_withKey (List.mem_eraseDups.mp hk)]
  rfl

theorem sum_counts (h : Group.ofRows? q.groupBy raw = some groups) :
    (groups.map fun g => g.members.length).sum = raw.length := by
  rw [← (Group.members_perm h).length_eq, List.length_flatMap]

theorem dividesInto (h : Group.ofRows? q.groupBy raw = some groups) :
    q.DividesInto raw groups where
  rows := by rw [aggregate?, h, Option.map_some]
  perm := Group.members_perm h
  single := by
    intro hg
    rw [hg] at h
    exact (Option.some.inj h).symm
  keys := fun hg => map_key_groups hg h
  members := fun hg g hm => members_eq_filter hg h hm
  counted := by
    intro column a he hs hc
    refine ⟨_, sum_counts h, ?_⟩
    rw [List.map_map]
    apply List.map_congr_left
    intro g hm
    rw [get?_groupRow (Group.keyed_of_mem h hm), he, Option.map_some]
    simp [entryCell, Aggregate.compute, hs, hc]

end Query

/-- Raw rows have no groups if a week of theirs starts before the calendar. Any other rows are
divided into one group for each key, in the order in which the keys first occur and each with its
rows in their order, so that the groups' rows are all rows and counts of rows add up to their
number. Without grouping fields there is one group, also of no rows. -/
theorem groups_divide_rows (q : Query) (raw : List Row) :
    (∃ r ∈ raw, q.LosesWeek r) ∧ q.aggregate? raw = none ∨
      (¬∃ r ∈ raw, q.LosesWeek r) ∧ ∃ groups, q.DividesInto raw groups := by
  by_cases hl : ∃ r ∈ raw, q.LosesWeek r
  · exact .inl ⟨hl, Query.aggregate?_eq_none_iff.mpr hl⟩
  · refine .inr ⟨hl, ?_⟩
    cases h : Group.ofRows? q.groupBy raw with
    | some groups => exact ⟨groups, Query.dividesInto h⟩
    | none =>
        have hn : q.aggregate? raw = none := by rw [Query.aggregate?, h, Option.map_none]
        exact absurd (Query.aggregate?_eq_none_iff.mp hn) hl

def countByWeek : Query where
  join := []
  select := [.aggregate ⟨"*", .count, "n", none⟩]
  groupBy := [.bucketed "day" .week]
  filter := []
  having := []
  orderBy := []
  limit := none

/-- The row on the first day of the calendar is in no group, and is not counted. -/
theorem firstDay_ungrouped :
    countByWeek.aggregate? [⟨[("day", .str "-262143-01-01")]⟩] = none := by
  rfl

end TableQuery
