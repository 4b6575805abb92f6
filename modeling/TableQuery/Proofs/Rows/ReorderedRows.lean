import TableQuery.Proofs.Rows.CellNumbers
import TableQuery.Proofs.Rows.Extremes
import TableQuery.Proofs.Rows.Groups

namespace TableQuery

open Aggregate (Ties values)

/-- How the cells that an entry has for two groups of the same rows stand to each other. -/
def SelectField.Alike (same : Json → Json → Prop) (rows : List Row) : SelectField → Json → Json → Prop
  | .column _, a, b => Cell.SameText (some a) (some b)
  | .aggregate f, a, b =>
      Aggregate.Alike same f.function (values (TableQuery.outputName f.field) rows) a b
  | .window _, _, _ => True

namespace Query

/-- Two groups with the same rows and with rows of results that are alike column by column. -/
structure GroupsAlike (q : Query) (same : Json → Json → Prop) (g g' : Group) : Prop where
  members : g.members.Perm g'.members
  cells : ∀ column f, q.entryFor? column = some f →
    ∃ a b, (q.groupRow g).get? column = some a ∧ (q.groupRow g').get? column = some b ∧
      f.Alike same g.members a b

/-- Groups of one row list are, in some order, alike those of the other one. Neither has any if a row
loses its week. -/
def AnswersAlike (q : Query) (same : Json → Json → Prop) (raw raw' : List Row) : Prop :=
  (∃ r ∈ raw, q.LosesWeek r) ∧ q.aggregate? raw = none ∧ q.aggregate? raw' = none ∨
    ∃ groups groups' matched : List Group,
      (Group.ofRows? q.groupBy raw = some groups ∧
          q.aggregate? raw = some (groups.map q.groupRow)) ∧
        (Group.ofRows? q.groupBy raw' = some groups' ∧
          q.aggregate? raw' = some (groups'.map q.groupRow)) ∧
        matched.Perm groups' ∧ List.Forall₂ (q.GroupsAlike same) groups matched

/-- In every group, the numbers that stand level at an extreme that is asked for are the same. -/
def TiesAre (q : Query) (same : Json → Json → Prop) (raw : List Row) : Prop :=
  ∀ groups, Group.ofRows? q.groupBy raw = some groups → ∀ g ∈ groups,
    ∀ column a, q.entryFor? column = some (.aggregate a) → a.countsRows = false →
      Ties same a.function (values (outputName a.field) g.members)

/-- Key texts are neither the stand-in for a missing one nor hold separators. -/
def KeysUnmarked (q : Query) (raw : List Row) : Prop :=
  ∀ r ∈ raw, ∀ keys, Group.keyValues? q.groupBy r = some keys →
    ∀ j ∈ keys, Cell.Unmarked (some j)

/-- Every plain column that is selected is grouped by. -/
def SelectsKeys (q : Query) : Prop :=
  ∀ field, .column field ∈ q.select → field ∈ q.groupBy.map GroupField.field

end Query

namespace Group

theorem keyOf_sameText {groupBy : List GroupField} {g g' : Group} (hg : g.Keyed groupBy)
    (h : Cell.Agree (g.keys.map some) (g'.keys.map some)) {field : String}
    (hf : field ∈ groupBy.map GroupField.field) :
    ∃ a b, g.keyOf groupBy field = some a ∧ g'.keyOf groupBy field = some b ∧
      Cell.SameText (some a) (some b) := by
  obtain ⟨ks, ms⟩ := g
  obtain ⟨ks', ms'⟩ := g'
  change ks.length = groupBy.length at hg
  induction groupBy generalizing ks ks' with
  | nil => cases hf
  | cons group groupBy ih =>
      cases ks with
      | nil => cases hg
      | cons k ks =>
          cases ks' with
          | nil => cases h
          | cons k' ks' =>
              obtain ⟨hk, h⟩ := List.forall₂_cons.mp h
              by_cases hgf : group.field = field
              · exact ⟨k, k', by simp [keyOf, hgf], by simp [keyOf, hgf], hk⟩
              · have hf' : field ∈ groupBy.map GroupField.field :=
                  (List.mem_cons.mp hf).resolve_left (Ne.symm hgf)
                obtain ⟨a, b, ha, hb, hab⟩ := ih hf' ks ks' h (Nat.succ.inj hg)
                refine ⟨a, b, ?_, ?_, hab⟩
                · rw [← ha]
                  simp [keyOf, hgf]
                · rw [← hb]
                  simp [keyOf, hgf]

end Group

namespace Query

variable {q : Query} {same : Json → Json → Prop} {raw raw' : List Row}

section Reordered

variable (hk : ∀ r ∈ raw, Group.keyValues? q.groupBy r ≠ none) (hu : q.KeysUnmarked raw)
  (hp : raw.Perm raw')

include hk hu

theorem unmarked_keysOf {r : Row} (hr : r ∈ raw) :
    ∀ part ∈ (Group.keysOf q.groupBy r).map some, Cell.Unmarked part := by
  intro part hpart
  obtain ⟨j, hj, rfl⟩ := List.mem_map.mp hpart
  exact hu r hr _ (Group.keyValues?_eq_some (hk r hr)) j hj

include hp

/-- The key values of a group are read off its first row, whichever that is. -/
theorem groupCell_withKey_sameText {key : String} (hkey : key ∈ raw.map (Group.rowKey q.groupBy))
    {field : String} (hf : field ∈ q.groupBy.map GroupField.field) :
    Cell.SameText (some (q.groupCell (Group.withKey q.groupBy raw key) field))
      (some (q.groupCell (Group.withKey q.groupBy raw' key) field)) := by
  obtain ⟨r, hr, hks⟩ := Group.exists_keys_withKey hkey
  obtain ⟨r', hr', hks'⟩ := Group.exists_keys_withKey ((hp.map _).mem_iff.mp hkey)
  obtain ⟨hm, he⟩ := Group.mem_withKey.mp hr
  obtain ⟨hm', he'⟩ := Group.mem_withKey.mp hr'
  have hm' : r' ∈ raw := hp.mem_iff.mpr hm'
  have hl : ((Group.keysOf q.groupBy r).map some).length =
      ((Group.keysOf q.groupBy r').map some).length := by
    rw [List.length_map, List.length_map, Group.length_keysOf (hk r hm),
      Group.length_keysOf (hk r' hm')]
  have hagree := (Cell.agree_iff_of_unmarked hl (List.forall_mem_append.mpr
    ⟨unmarked_keysOf hk hu hm, unmarked_keysOf hk hu hm'⟩)).mp (he.trans he'.symm)
  rw [← hks, ← hks'] at hagree
  obtain ⟨a, b, ha, hb, hab⟩ :=
    Group.keyOf_sameText (Group.keyed_withKey hk hkey) hagree hf
  rw [groupCell, groupCell, ha, hb]
  exact hab

theorem groupsAlike_withKey (hg : q.groupBy ≠ []) (hs : q.SelectsKeys) (hnull : same .null .null)
    (ht : q.TiesAre same raw) {key : String} (hkey : key ∈ raw.map (Group.rowKey q.groupBy)) :
    q.GroupsAlike same (Group.withKey q.groupBy raw key) (Group.withKey q.groupBy raw' key) where
  members := hp.filter _
  cells := by
    intro column f hf
    have hk' : ∀ r ∈ raw', Group.keyValues? q.groupBy r ≠ none :=
      fun r hr => hk r (hp.mem_iff.mpr hr)
    have hcell := get?_groupRow (Group.keyed_withKey hk hkey) column
    have hcell' := get?_groupRow (Group.keyed_withKey hk' ((hp.map _).mem_iff.mp hkey)) column
    rw [hf] at hcell hcell'
    refine ⟨_, _, hcell, hcell', ?_⟩
    cases f with
    | window w => trivial
    | column field =>
        refine groupCell_withKey_sameText hk hu hp hkey ?_
        rcases mem_entries (mem_entries_of_entryFor? hf).1 with hm | ⟨b, hb, he⟩
        · exact hs field (mem_baseSelect.mp hm).1
        · obtain rfl := SelectField.column.inj he
          exact field_mem_of_implicit hb
    | aggregate a =>
        refine Aggregate.compute_alike (hp.filter _) hnull fun hc => ?_
        exact ht _ (Group.ofRows?_eq hg hk) _
          (List.mem_map_of_mem (List.mem_eraseDups.mpr hkey)) column a hf hc

end Reordered

theorem answersAlike_of_perm (hg : q.groupBy ≠ []) (hs : q.SelectsKeys) (hu : q.KeysUnmarked raw)
    (hp : raw.Perm raw') (hnull : same .null .null) (ht : q.TiesAre same raw) :
    q.AnswersAlike same raw raw' := by
  by_cases hl : ∃ r ∈ raw, q.LosesWeek r
  · obtain ⟨r, hr, hw⟩ := hl
    exact .inl ⟨⟨r, hr, hw⟩, aggregate?_eq_none_iff.mpr ⟨r, hr, hw⟩,
      aggregate?_eq_none_iff.mpr ⟨r, hp.mem_iff.mp hr, hw⟩⟩
  · have hk : ∀ r ∈ raw, Group.keyValues? q.groupBy r ≠ none :=
      fun r hr hn => hl ⟨r, hr, keyValues?_eq_none_iff.mp hn⟩
    have hk' : ∀ r ∈ raw', Group.keyValues? q.groupBy r ≠ none :=
      fun r hr => hk r (hp.mem_iff.mpr hr)
    have hrows {rows : List Row} {groups : List Group} (h : Group.ofRows? q.groupBy rows = some groups) :
        q.aggregate? rows = some (groups.map q.groupRow) := by rw [aggregate?, h, Option.map_some]
    have hgroups := Group.ofRows?_eq hg hk
    have hgroups' := Group.ofRows?_eq hg hk'
    refine .inr ⟨_, _, ((raw.map (Group.rowKey q.groupBy)).eraseDups.map
      (Group.withKey q.groupBy raw')), ⟨hgroups, hrows hgroups⟩, ⟨hgroups', hrows hgroups'⟩, ?_, ?_⟩
    · exact (eraseDups_perm (hp.map _)).map _
    · rw [List.forall₂_map_left_iff, List.forall₂_map_right_iff, List.forall₂_same]
      intro key hkey
      exact groupsAlike_withKey hk hu hp hg hs hnull ht (List.mem_eraseDups.mp hkey)

theorem exists_alike {groups matched : List Group}
    (h : List.Forall₂ (q.GroupsAlike same) groups matched) {g : Group} (hg : g ∈ groups) :
    ∃ g' ∈ matched, q.GroupsAlike same g g' := by
  induction h with
  | nil => cases hg
  | cons hab _ ih =>
      rcases List.mem_cons.mp hg with rfl | hg
      · exact ⟨_, List.mem_cons_self, hab⟩
      · obtain ⟨g', hg', ha⟩ := ih hg
        exact ⟨g', List.mem_cons_of_mem _ hg', ha⟩

theorem exists_front (hg : q.groupBy ≠ [])
    (h : ∀ raw', raw.Perm raw' → q.AnswersAlike same raw raw') {groups : List Group}
    (hgroups : Group.ofRows? q.groupBy raw = some groups) {g : Group} (hm : g ∈ groups) {r : Row}
    (hr : r ∈ g.members) :
    ∃ g', q.GroupsAlike same g g' ∧ g'.Keyed q.groupBy ∧ ∃ rest, g'.members = r :: rest := by
  have hraw : r ∈ raw := by
    rw [members_eq_filter hg hgroups hm] at hr
    exact List.mem_of_mem_filter hr
  obtain ⟨before, behind, hsplit⟩ := List.append_of_mem hraw
  have hp : raw.Perm (r :: (before ++ behind)) := by
    rw [hsplit]
    exact List.perm_middle
  rcases h _ hp with ⟨-, hnone, -⟩ | ⟨groups₀, groups', matched, ⟨h₀, -⟩, ⟨h', -⟩, hmatched, halike⟩
  · rw [aggregate?, hgroups] at hnone
    cases hnone
  · obtain rfl := Option.some.inj (hgroups.symm.trans h₀)
    obtain ⟨g', hg', hgg⟩ := exists_alike halike hm
    have hm' : g' ∈ groups' := hmatched.mem_iff.mp hg'
    refine ⟨g', hgg, Group.keyed_of_mem h' hm', ?_⟩
    have hr' : r ∈ g'.members := hgg.members.mem_iff.mp hr
    rw [members_eq_filter hg h' hm'] at hr' ⊢
    exact ⟨_, List.filter_cons_of_pos (List.mem_filter.mp hr').2⟩

/-- Any level cell is shown, if its row comes first. -/
theorem same_first (hg : q.groupBy ≠ [])
    (h : ∀ raw', raw.Perm raw' → q.AnswersAlike same raw raw') {groups : List Group}
    (hgroups : Group.ofRows? q.groupBy raw = some groups) {g : Group} (hm : g ∈ groups)
    {column : String} {a : AggregateField} (hf : q.entryFor? column = some (.aggregate a))
    (hc : a.countsRows = false) (hn : Aggregate.Numeric (values (outputName a.field) g.members))
    {order : Json → Json → Ordering}
    (ho : Aggregate.orderFor? (values (outputName a.field) g.members) a.function = some order)
    {x : Json} (hx : Aggregate.Foremost order (values (outputName a.field) g.members) x) :
    same (Aggregate.compute a g.members) x := by
  obtain ⟨r, hr, hrx⟩ := List.mem_filterMap.mp (List.mem_filter.mp hx.1).1
  obtain ⟨g', hgg, hk', rest, hfront⟩ := exists_front hg h hgroups hm hr
  have hp := hgg.members
  rw [hfront] at hp
  obtain ⟨u, v, hu, hv, huv⟩ := hgg.cells column _ hf
  rw [get?_groupRow (Group.keyed_of_mem hgroups hm), hf] at hu
  rw [get?_groupRow hk', hf] at hv
  obtain rfl := Option.some.inj hu
  obtain rfl := Option.some.inj hv
  have hsame := Aggregate.Alike.same_of_numeric huv hn ho
  rw [entryCell, entryCell, hfront, Aggregate.compute_of_front hp hc ho hx hrx] at hsame
  exact hsame

theorem tiesAre_of_answersAlike (hg : q.groupBy ≠ []) (hsymm : ∀ {j k}, same j k → same k j)
    (htrans : ∀ {i j k}, same i j → same j k → same i k)
    (h : ∀ raw', raw.Perm raw' → q.AnswersAlike same raw raw') : q.TiesAre same raw := by
  intro groups hgroups g hm column a hf hc hn order ho j k hj hk
  exact htrans (hsymm (same_first hg h hgroups hm hf hc hn ho hj))
    (same_first hg h hgroups hm hf hc hn ho hk)

theorem tiesAre_equal (q : Query) (raw : List Row) :
    q.TiesAre (fun a b => Cell.equal a b = true) raw :=
  fun _ _ _ _ _ _ _ _ => Aggregate.ties_equal _ _

end Query

/-- Groups of rows do not depend on the order of the rows, nor do their keys' texts, counts and
percentiles; least and greatest cells of numbers are equal as binary64 numbers, and those of other
cells in their texts. They denote the same numbers in every order exactly if the cells that stand
level there do. -/
theorem reordered_rows_alike_iff {q : Query} {raw : List Row} (hg : q.groupBy ≠ [])
    (hs : q.SelectsKeys) (hu : q.KeysUnmarked raw) :
    (∀ raw', raw.Perm raw' → q.AnswersAlike (fun a b => Cell.equal a b = true) raw raw') ∧
      ((∀ raw', raw.Perm raw' → q.AnswersAlike Cell.SameNumber raw raw') ↔
        q.TiesAre Cell.SameNumber raw) := by
  refine ⟨?_, ?_, ?_⟩
  · intro raw' hp
    exact Query.answersAlike_of_perm hg hs hu hp rfl (q.tiesAre_equal raw)
  · intro h
    exact Query.tiesAre_of_answersAlike hg Cell.SameNumber.symm Cell.SameNumber.trans h
  · intro ht raw' hp
    exact Query.answersAlike_of_perm hg hs hu hp (.inl ⟨rfl, rfl⟩) ht

def leastByRegion : Query where
  join := []
  select := [.column "region", .aggregate ⟨"amount", .min, "low", none⟩]
  groupBy := [.plain "region"]
  filter := []
  having := []
  orderBy := []
  limit := none

def euRow (amount : Json) : Row := ⟨[("region", .str "eu"), ("amount", amount)]⟩

theorem keysUnmarked_euRows (amounts : List Json) :
    leastByRegion.KeysUnmarked (amounts.map euRow) := by
  intro r hr keys hk j hj t ht
  obtain ⟨amount, -, rfl⟩ := List.mem_map.mp hr
  obtain rfl : [Json.str "eu"] = keys := Option.some.inj hk
  obtain rfl := List.mem_singleton.mp hj
  obtain rfl : "eu" = t := Option.some.inj ht
  decide

theorem selectsKeys_leastByRegion : leastByRegion.SelectsKeys := by
  intro field hf
  obtain rfl : field = "region" := by simpa [leastByRegion] using hf
  decide

theorem leastByRegion_alike :
    leastByRegion.groupBy ≠ [] ∧ leastByRegion.SelectsKeys ∧
      leastByRegion.KeysUnmarked ([.int 1, .str "1.0"].map euRow) ∧
      leastByRegion.AnswersAlike (fun a b => Cell.equal a b = true)
        ([.int 1, .str "1.0"].map euRow) ([.str "1.0", .int 1].map euRow) := by
  have hg : leastByRegion.groupBy ≠ [] := List.cons_ne_nil _ _
  have hu := keysUnmarked_euRows [.int 1, .str "1.0"]
  have hp : ([.int 1, .str "1.0"].map euRow).Perm ([.str "1.0", .int 1].map euRow) :=
    (List.Perm.swap _ _ _).map _
  exact ⟨hg, selectsKeys_leastByRegion, hu,
    (reordered_rows_alike_iff hg selectsKeys_leastByRegion hu).1 _ hp⟩

/-- Of two integers that round to one binary64 number, the one that comes first is the least. -/
theorem leastByRegion_follows_order :
    leastByRegion.groupBy ≠ [] ∧ leastByRegion.SelectsKeys ∧
      leastByRegion.KeysUnmarked ([.int 9007199254740993, .int 9007199254740992].map euRow) ∧
      ([.int 9007199254740993, .int 9007199254740992].map euRow).Perm
        ([.int 9007199254740992, .int 9007199254740993].map euRow) ∧
      leastByRegion.aggregate? ([.int 9007199254740993, .int 9007199254740992].map euRow) =
        some [⟨[("region", .str "eu"), ("low", .int 9007199254740993)]⟩] ∧
      leastByRegion.aggregate? ([.int 9007199254740992, .int 9007199254740993].map euRow) =
        some [⟨[("region", .str "eu"), ("low", .int 9007199254740992)]⟩] ∧
      ¬Cell.SameNumber (.int 9007199254740993) (.int 9007199254740992) := by
  refine ⟨List.cons_ne_nil _ _, selectsKeys_leastByRegion, keysUnmarked_euRows _,
    (List.Perm.swap _ _ _).map _, rfl, rfl, ?_⟩
  rw [Cell.sameNumber_iff rfl]
  intro h
  exact absurd (Rat.intCast_inj.mp (Option.some.inj h)) (by decide)

end TableQuery
