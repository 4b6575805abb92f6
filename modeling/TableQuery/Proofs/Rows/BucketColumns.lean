import TableQuery.Proofs.Calendar.Digits
import TableQuery.Proofs.Rows.GroupKeys
import TableQuery.Proofs.Rows.Groups
import TableQuery.Proofs.Sql.SelectedColumns
import TableQuery.Proofs.Validation.Acceptance

namespace TableQuery

open Sql

namespace Calendar

theorem char_of_mem_yearText {year : Int} {c : Char} (h : c ∈ (yearText year).toList) :
    c.isDigit = true ∨ c = '-' ∨ c = '+' := by
  unfold yearText at h
  split at h
  · rw [String.toList_append, List.mem_append] at h
    exact h.elim (fun hc => .inr (.inl (by simpa using hc))) fun hc => .inl (isDigit_of_mem_padLeft hc)
  · split at h
    · rw [String.toList_append, List.mem_append] at h
      exact h.elim (fun hc => .inr (.inr (by simpa using hc)))
        fun hc => .inl (isDigit_of_mem_padLeft hc)
    · exact .inl (isDigit_of_mem_padLeft h)

theorem Date.char_of_mem_text {d : Date} {c : Char} (h : c ∈ d.text.toList) :
    c.isDigit = true ∨ c = '-' ∨ c = '+' := by
  simp only [Date.text, String.toList_append, List.mem_append] at h
  rcases h with (((h | h) | h) | h) | h
  · exact char_of_mem_yearText h
  · exact .inr (.inl (by simpa using h))
  · exact .inl (isDigit_of_mem_padLeft h)
  · exact .inr (.inl (by simpa using h))
  · exact .inl (isDigit_of_mem_padLeft h)

end Calendar

namespace Cell

theorem bucket?_cases {j k : Json} {b : Bucket} (h : bucket? j b = some k) :
    k = .null ∨ ∃ d : Calendar.Date, k = .str d.text := by
  unfold bucket? at h
  split at h
  · exact .inl (Option.some.inj h).symm
  · obtain ⟨d, -, rfl⟩ := Option.map_eq_some_iff.mp h
    exact .inr ⟨d, rfl⟩

theorem unmarked_bucket? (j : Json) (b : Bucket) : Unmarked (bucket? j b) := by
  intro t ht
  obtain ⟨k, hk, htext⟩ := Option.bind_eq_some_iff.mp ht
  rcases bucket?_cases hk with rfl | ⟨d, rfl⟩
  · cases htext
  · obtain rfl := Option.some.inj htext
    refine ⟨fun hc => ?_, fun he => ?_⟩
    · exact absurd (Calendar.Date.char_of_mem_text hc) (by decide)
    · have hc : '\x00' ∈ d.text.toList := by
        rw [he]
        decide
      exact absurd (Calendar.Date.char_of_mem_text hc) (by decide)

theorem bucket?_eq_of_sameText {i j k l : Json} {b c : Bucket} (hk : bucket? i b = some k)
    (hl : bucket? j c = some l) (h : SameText (some k) (some l)) : k = l := by
  rcases bucket?_cases hk with rfl | ⟨d, rfl⟩ <;> rcases bucket?_cases hl with rfl | ⟨e, rfl⟩
  · rfl
  · simp [SameText, isMissing, Json.isNull, text?] at h
  · simp [SameText, isMissing, Json.isNull, text?] at h
  · simpa [SameText, isMissing, Json.isNull, text?, eq_comm] using h

end Cell

def Row.bucket? (r : Row) (b : String × Bucket) : Option Json :=
  Cell.bucket? ((r.get? (outputName b.1)).getD .null) b.2

namespace Group

variable {groupBy : List GroupField} {rows : List Row} {groups : List Group} {g : Group}

theorem keyValue?_bucketed (r : Row) (b : String × Bucket) :
    keyValue? r (.bucketed b.1 b.2) = r.bucket? b := by
  have hc (j : Json) : (if j.isNull then some j else Cell.bucket? j b.2) = Cell.bucket? j b.2 := by
    cases j <;> rfl
  exact hc _

theorem keyOf_eq {keys : List Json} {r : Row} (h : groupBy.map (keyValue? r) = keys.map some)
    (members : List Row) (field : String) :
    (⟨keys, members⟩ : Group).keyOf groupBy field =
      (groupBy.find? fun k => k.field = field).bind (keyValue? r) := by
  unfold keyOf
  induction groupBy generalizing keys with
  | nil => rfl
  | cons k groupBy ih =>
      cases keys with
      | nil => cases h
      | cons key keys =>
          obtain ⟨hk, hr⟩ := List.cons.inj h
          by_cases hf : k.field = field
          · simp [hf, hk]
          · simpa [hf] using ih hr

theorem keyValue?_ne_none {r : Row} (h : keyValues? groupBy r ≠ none) {k : GroupField}
    (hk : k ∈ groupBy) : keyValue? r k ≠ none :=
  fun hn => h (mapM_eq_none_iff.mpr ⟨k, hk, hn⟩)

theorem map_keyValue? {r : Row} (h : keyValues? groupBy r ≠ none) :
    groupBy.map (keyValue? r) = (keysOf groupBy r).map some :=
  mapM_eq_some_iff.mp (keyValues?_eq_some h)

theorem exists_keys_of_mem (hne : groupBy ≠ []) (h : ofRows? groupBy rows = some groups)
    (hg : g ∈ groups) : ∃ r ∈ g.members, groupBy.map (keyValue? r) = g.keys.map some := by
  have hk := keyValues?_ne_none h
  rw [ofRows?_eq hne hk] at h
  obtain rfl := Option.some.inj h
  obtain ⟨key, hkey, rfl⟩ := List.mem_map.mp hg
  obtain ⟨r, hr, hkeys⟩ := exists_keys_withKey (List.mem_eraseDups.mp hkey)
  exact ⟨r, hr, by rw [hkeys, map_keyValue? (hk r (mem_withKey.mp hr).1)]⟩

theorem mem_of_mem_members (h : ofRows? groupBy rows = some groups) (hg : g ∈ groups) {r : Row}
    (hr : r ∈ g.members) : r ∈ rows :=
  (members_perm h).mem_iff.mp (List.mem_flatMap.mpr ⟨g, hg, hr⟩)

end Group

namespace Query

variable {q : Query} {raw : List Row}

/-- The rows of a group share the bucket. -/
def GroupsBuckets (q : Query) (b : String × Bucket) (raw : List Row) : Prop :=
  ∀ groups, Group.ofRows? q.groupBy raw = some groups → ∀ g ∈ groups,
    ∀ r ∈ g.members, ∀ s ∈ g.members, r.bucket? b = s.bucket? b

/-- The column of the bucket holds, for each group, the bucket of every row of the group. -/
def ShowsBucket (q : Query) (b : String × Bucket) (raw : List Row) : Prop :=
  ∀ groups, Group.ofRows? q.groupBy raw = some groups → ∀ g ∈ groups,
    ∀ r ∈ g.members, (q.groupRow g).get? (outputName b.1) = r.bucket? b

/-- The column of the bucket holds, for each group, the cell of a row of the group as it is. -/
def ShowsCell (q : Query) (b : String × Bucket) (raw : List Row) : Prop :=
  ∀ groups, Group.ofRows? q.groupBy raw = some groups → ∀ g ∈ groups,
    ∃ r ∈ g.members, (q.groupRow g).get? (outputName b.1) =
      some ((r.get? (outputName b.1)).getD .null)

/-- Cells that are grouped by as they are cannot be mistaken for several or for a missing one. -/
def PlainKeysUnmarked (q : Query) (raw : List Row) : Prop :=
  ∀ r ∈ raw, ∀ field, .plain field ∈ q.groupBy → Cell.Unmarked (r.get? (outputName field))

theorem nodup_baseColumns {s : Scope} (h : q.checkIn s = .ok ()) : q.baseColumns.Nodup := by
  obtain ⟨-, -, -, -, hn, -⟩ := checkIn_eq_ok_iff.mp h
  exact hn.of_append_left

theorem map_outputName_entries : q.entries.map SelectField.outputName = q.baseColumns := by
  rw [entries, List.map_append, List.map_map, baseColumns]
  rfl

theorem entryFor?_bucket (hn : q.baseColumns.Nodup) {b : String × Bucket}
    (hb : b ∈ q.implicitBuckets) : q.entryFor? (outputName b.1) = some (.column b.1) := by
  have hm : SelectField.column b.1 ∈ q.entries.reverse := by
    rw [List.mem_reverse, entries, List.mem_append]
    exact .inl (List.mem_map_of_mem hb)
  have hr : (q.entries.reverse.map SelectField.outputName).Nodup := by
    rwa [List.map_reverse, List.nodup_reverse, map_outputName_entries]
  exact find?_key_eq_some hr hm

section Column

variable {b : String × Bucket} {groups : List Group} {g : Group}

theorem groupBy_ne_nil (hb : b ∈ q.implicitBuckets) : q.groupBy ≠ [] :=
  List.ne_nil_of_mem (bucketed_mem_of_implicit hb)

/-- The column of an added bucket holds the key value that the first grouping of its field gives one
row of the group. -/
theorem get?_bucketColumn (hn : q.baseColumns.Nodup) (hb : b ∈ q.implicitBuckets)
    (h : Group.ofRows? q.groupBy raw = some groups) (hg : g ∈ groups) :
    ∃ r ∈ g.members, (q.groupRow g).get? (outputName b.1) =
      (q.groupBy.find? fun k => k.field = b.1).bind (Group.keyValue? r) := by
  obtain ⟨r, hr, hkeys⟩ := Group.exists_keys_of_mem (groupBy_ne_nil hb) h hg
  have hkeyed := Group.keyed_of_mem h hg
  have hkey := Group.keyOf_eq hkeys g.members b.1
  refine ⟨r, hr, ?_⟩
  obtain ⟨key, hk⟩ :=
    Option.isSome_iff_exists.mp ((Group.isSome_keyOf hkeyed).mpr (field_mem_of_implicit hb))
  rw [get?_groupRow hkeyed, entryFor?_bucket hn hb, Option.map_some, entryCell, groupCell, ← hkey, hk]

theorem find?_eq_of_bucketOf (h : q.bucketOf b.1 = some b.2) :
    q.groupBy.find? (fun k => k.field = b.1) = some (.bucketed b.1 b.2) := by
  obtain ⟨k, hk, hbucket⟩ := Option.bind_eq_some_iff.mp h
  have hfield : k.field = b.1 := by simpa using List.find?_some hk
  rw [hk]
  cases k with
  | plain field => cases hbucket
  | bucketed field bucket =>
      obtain rfl := Option.some.inj hbucket
      obtain rfl := hfield
      rfl

theorem bucket_unique (hn : q.baseColumns.Nodup) (hb : b ∈ q.implicitBuckets) {c : Bucket}
    (hc : .bucketed b.1 c ∈ q.groupBy) : c = b.2 := by
  have hi : (b.1, c) ∈ q.implicitBuckets := by
    rw [implicitBuckets, List.mem_filter]
    exact ⟨List.mem_filterMap.mpr ⟨_, hc, rfl⟩, (List.mem_filter.mp hb).2⟩
  have he : (b.1, c) = b := List.inj_on_of_nodup_map hn.of_append_left hi hb rfl
  rw [← he]

theorem find?_eq_of_bucketOf_ne (hn : q.baseColumns.Nodup) (hb : b ∈ q.implicitBuckets)
    (h : q.bucketOf b.1 ≠ some b.2) :
    q.groupBy.find? (fun k => k.field = b.1) = some (.plain b.1) := by
  have hsome : (q.groupBy.find? fun k => k.field = b.1).isSome :=
    find?_key_isSome.mpr (field_mem_of_implicit hb)
  obtain ⟨k, hk⟩ := Option.isSome_iff_exists.mp hsome
  have hfield : k.field = b.1 := by simpa using List.find?_some hk
  rw [hk]
  cases k with
  | plain field => exact congrArg (fun f => some (GroupField.plain f)) hfield
  | bucketed field c =>
      obtain rfl : field = b.1 := hfield
      have hc := bucket_unique hn hb (List.mem_of_find?_eq_some hk)
      rw [bucketOf, hk, Option.bind_some, GroupField.bucket, hc] at h
      exact absurd rfl h

theorem showsCell_of_bucketOf_ne (hn : q.baseColumns.Nodup) (hb : b ∈ q.implicitBuckets)
    (h : q.bucketOf b.1 ≠ some b.2) (raw : List Row) : q.ShowsCell b raw := by
  intro groups hgroups g hg
  obtain ⟨r, hr, hcell⟩ := get?_bucketColumn hn hb hgroups hg
  rw [find?_eq_of_bucketOf_ne hn hb h] at hcell
  exact ⟨r, hr, hcell⟩

/-- Where the bucket is the first grouping of its field, its column is right for the rows of a group
exactly if they share the bucket. -/
theorem showsBucket_iff (hn : q.baseColumns.Nodup) (hb : b ∈ q.implicitBuckets)
    (hfirst : q.bucketOf b.1 = some b.2) (raw : List Row) :
    q.ShowsBucket b raw ↔ q.GroupsBuckets b raw := by
  constructor
  · intro h groups hgroups g hg r hr s hs
    rw [← h groups hgroups g hg r hr, h groups hgroups g hg s hs]
  · intro h groups hgroups g hg r hr
    obtain ⟨s, hs, hcell⟩ := get?_bucketColumn hn hb hgroups hg
    rw [hcell, find?_eq_of_bucketOf hfirst, Option.bind_some, Group.keyValue?_bucketed]
    exact h groups hgroups g hg s hs r hr

end Column

section Keys

variable {b : String × Bucket}

theorem unmarked_keyValue? (h : q.PlainKeysUnmarked raw) {r : Row} (hr : r ∈ raw) {k : GroupField}
    (hk : k ∈ q.groupBy) : Cell.Unmarked (Group.keyValue? r k) := by
  cases k with
  | plain field =>
      have hu := h r hr field hk
      intro t ht
      cases hc : r.get? (outputName field) with
      | none => simp [Group.keyValue?, GroupField.bucket, GroupField.field, hc, Cell.text?] at ht
      | some cell =>
          rw [hc] at hu
          simp only [Group.keyValue?, GroupField.bucket, GroupField.field, hc, Option.getD_some] at ht
          exact hu t ht
  | bucketed field bucket =>
      rw [Group.keyValue?_bucketed r (field, bucket)]
      exact Cell.unmarked_bucket? _ _

theorem sameText_keyValue? {groups : List Group} (h : q.PlainKeysUnmarked raw)
    (hgroups : Group.ofRows? q.groupBy raw = some groups) {g : Group} (hg : g ∈ groups) {r s : Row}
    (hr : r ∈ g.members) (hs : s ∈ g.members) {k : GroupField} (hk : k ∈ q.groupBy) :
    Cell.SameText (Group.keyValue? r k) (Group.keyValue? s k) := by
  have hknown := Group.keyValues?_ne_none hgroups
  rw [members_eq_filter (List.ne_nil_of_mem hk) hgroups hg, List.mem_filter, decide_eq_true_eq]
    at hr hs
  have hkey : Cell.groupKey (q.groupBy.map (Group.keyValue? r)) =
      Cell.groupKey (q.groupBy.map (Group.keyValue? s)) := by
    rw [Group.map_keyValue? (hknown r hr.1), Group.map_keyValue? (hknown s hs.1)]
    exact hr.2.trans hs.2.symm
  have hunmarked {r : Row} (hr : r ∈ raw) :
      ∀ part ∈ q.groupBy.map (Group.keyValue? r), Cell.Unmarked part :=
    List.forall_mem_map.mpr fun _ hk => unmarked_keyValue? h hr hk
  have hagree := (Cell.agree_iff_of_unmarked (by simp)
    (List.forall_mem_append.mpr ⟨hunmarked hr.1, hunmarked hs.1⟩)).mp hkey
  rw [Cell.Agree, List.forall₂_map_left_iff, List.forall₂_map_right_iff, List.forall₂_same] at hagree
  exact hagree k hk

theorem exists_bucket {r : Row} (h : Group.keyValues? q.groupBy r ≠ none)
    (hb : b ∈ q.implicitBuckets) : ∃ k, r.bucket? b = some k := by
  have hk := Group.keyValue?_ne_none h (bucketed_mem_of_implicit hb)
  rw [Group.keyValue?_bucketed] at hk
  exact Option.ne_none_iff_exists'.mp hk

/-- Buckets are merged with no others unless a plain key takes part in it. -/
theorem groupsBuckets_of_unmarked (hb : b ∈ q.implicitBuckets) (h : q.PlainKeysUnmarked raw) :
    q.GroupsBuckets b raw := by
  intro groups hgroups g hg r hr s hs
  have hsame := sameText_keyValue? h hgroups hg hr hs (bucketed_mem_of_implicit hb)
  rw [Group.keyValue?_bucketed, Group.keyValue?_bucketed] at hsame
  have hbucket {r : Row} (hr : r ∈ g.members) : ∃ k, r.bucket? b = some k :=
    exists_bucket (Group.keyValues?_ne_none hgroups r (Group.mem_of_mem_members hgroups hg hr)) hb
  obtain ⟨k, hk⟩ := hbucket hr
  obtain ⟨l, hl⟩ := hbucket hs
  rw [hk, hl] at hsame ⊢
  rw [Cell.bucket?_eq_of_sameText hk hl hsame]

end Keys

section Spring

def springTime : Json := .str "2024-05-15T10:30:00Z"

def springRow (field : String) : Row := ⟨[(outputName field, springTime)]⟩

def springBucket : Bucket → String
  | .day => "2024-05-15"
  | .week => "2024-05-13"
  | .month => "2024-05-01"
  | .quarter => "2024-04-01"
  | .year => "2024-01-01"

theorem bucket?_springTime (b : Bucket) :
    Cell.bucket? springTime b = some (.str (springBucket b)) := by
  cases b <;> rfl

theorem get?_springRow (field : String) : (springRow field).get? (outputName field) = springTime := by
  simp [springRow, Row.get?]

theorem springRow_bucket? (b : String × Bucket) :
    (springRow b.1).bucket? b = some (.str (springBucket b.2)) := by
  rw [Row.bucket?, get?_springRow, Option.getD_some, bucket?_springTime]

theorem springBucket_ne (b : Bucket) : springBucket b ≠ "2024-05-15T10:30:00Z" := by
  cases b <;> decide

theorem springBucket_injective : Function.Injective springBucket := by
  intro b c h
  cases b <;> cases c <;> first | rfl | exact absurd h (by decide)

theorem bucket_eq_of_springRow {b : String × Bucket} {k : GroupField} (hk : k.field = b.1)
    (h : Group.keyValue? (springRow b.1) k = some (.str (springBucket b.2))) :
    k.bucket = some b.2 := by
  cases k with
  | plain field =>
      obtain rfl : field = b.1 := hk
      simp only [Group.keyValue?, GroupField.bucket, GroupField.field, get?_springRow,
        Option.getD_some] at h
      exact absurd (Json.str.inj (Option.some.inj h)).symm (springBucket_ne b.2)
  | bucketed field c =>
      obtain rfl : field = b.1 := hk
      rw [Group.keyValue?_bucketed (springRow b.1) (b.1, c), springRow_bucket? (b.1, c)] at h
      exact congrArg some (springBucket_injective (Json.str.inj (Option.some.inj h)))

theorem not_losesWeek_springRow (field : String) : ¬q.LosesWeek (springRow field) := by
  rintro ⟨other, cell, d, -, hc, hd, hw⟩
  by_cases ho : outputName field = outputName other
  · rw [← ho, get?_springRow] at hc
    obtain rfl := Option.some.inj hc
    have hdate : Cell.date? springTime = some ⟨2024, 5, 15⟩ := rfl
    obtain rfl := Option.some.inj (hdate.symm.trans hd)
    exact absurd hw (by decide)
  · simp [springRow, Row.get?, ho] at hc

theorem bucketOf_of_showsBucket {b : String × Bucket} (hn : q.baseColumns.Nodup)
    (hb : b ∈ q.implicitBuckets)
    (h : q.GroupsBuckets b [springRow b.1] → q.ShowsBucket b [springRow b.1]) :
    q.bucketOf b.1 = some b.2 := by
  have hknown : ∀ r ∈ [springRow b.1], Group.keyValues? q.groupBy r ≠ none := by
    intro r hr
    rw [List.mem_singleton.mp hr, Ne, keyValues?_eq_none_iff]
    exact not_losesWeek_springRow b.1
  obtain ⟨groups, hgroups⟩ : ∃ groups, Group.ofRows? q.groupBy [springRow b.1] = some groups :=
    ⟨_, Group.ofRows?_eq (groupBy_ne_nil hb) hknown⟩
  have hsingle {groups : List Group} (hgroups : Group.ofRows? q.groupBy [springRow b.1] = some groups)
      {g : Group} (hg : g ∈ groups) {r : Row} (hr : r ∈ g.members) : r = springRow b.1 :=
    List.mem_singleton.mp (Group.mem_of_mem_members hgroups hg hr)
  have hshared : q.GroupsBuckets b [springRow b.1] := by
    intro groups hgroups g hg r hr t ht
    rw [hsingle hgroups hg hr, hsingle hgroups hg ht]
  obtain ⟨g, hg, hr⟩ := List.mem_flatMap.mp
    ((Group.members_perm hgroups).mem_iff.mpr (List.mem_singleton_self (springRow b.1)))
  obtain ⟨r, hmem, hcell⟩ := get?_bucketColumn hn hb hgroups hg
  obtain rfl := hsingle hgroups hg hmem
  rw [h hshared groups hgroups g hg _ hr, springRow_bucket?] at hcell
  obtain ⟨k, hk, hvalue⟩ := Option.bind_eq_some_iff.mp hcell.symm
  have hfield : k.field = b.1 := by simpa using List.find?_some hk
  rw [bucketOf, hk, Option.bind_some]
  exact bucket_eq_of_springRow hfield hvalue

end Spring

end Query

/-- An added bucket is selected as such. The column holds the bucket of every row of a group, wherever
the rows of a group share one, exactly if the bucket is the first grouping of its field; rows share it
where no plain key has a separator or the text that stands for a missing one. If another grouping of
the field comes first, the column always holds cells as they are. -/
theorem bucket_columns_faithful_iff {q : Query} {s : Scope} (hc : q.checkIn s = .ok ())
    {b : String × Bucket} (hb : b ∈ q.implicitBuckets) (table : String) :
    (q.body table).emitted? (outputName b.1) = some (.truncated b.2 (.ofField b.1)) ∧
      ((∀ raw, q.GroupsBuckets b raw → q.ShowsBucket b raw) ↔ q.bucketOf b.1 = some b.2) ∧
      (q.bucketOf b.1 = some b.2 → ∀ raw, q.ShowsBucket b raw ↔ q.GroupsBuckets b raw) ∧
      (∀ raw, q.PlainKeysUnmarked raw → q.GroupsBuckets b raw) ∧
      (q.bucketOf b.1 ≠ some b.2 → ∀ raw, q.ShowsCell b raw) := by
  have hn := Query.nodup_baseColumns hc
  have hshows := Query.showsBucket_iff hn hb
  refine ⟨Query.emitted?_bucket hn table hb, ⟨?_, ?_⟩, hshows, ?_, ?_⟩
  · exact fun h => Query.bucketOf_of_showsBucket hn hb (h _)
  · exact fun hfirst raw => (hshows hfirst raw).mpr
  · exact fun raw => Query.groupsBuckets_of_unmarked hb
  · exact Query.showsCell_of_bucketOf_ne hn hb

def countByMonth (first : List GroupField) : Query where
  join := []
  select := [.aggregate ⟨"*", .count, "n", none⟩]
  groupBy := first ++ [.bucketed "day" .month]
  filter := []
  having := []
  orderBy := []
  limit := none

def daysScope : Scope := ⟨⟨"orders", [⟨"day", "TEXT", true⟩]⟩, []⟩

def dayRow (day : String) : Row := ⟨[("day", .str day)]⟩

theorem march_shown :
    (countByMonth []).checkIn daysScope = .ok () ∧
      ("day", .month) ∈ (countByMonth []).implicitBuckets ∧
      (countByMonth []).ShowsBucket ("day", .month) [dayRow "2024-03-15", dayRow "2024-03-16"] ∧
      (countByMonth []).aggregate? [dayRow "2024-03-15", dayRow "2024-03-16"] =
        some [⟨[("day", .str "2024-03-01"), ("n", .int 2)]⟩] := by
  have hc : (countByMonth []).checkIn daysScope = .ok () := rfl
  have hb : ("day", .month) ∈ (countByMonth []).implicitBuckets := List.mem_singleton_self _
  obtain ⟨-, -, hshows, hkeys, -⟩ := bucket_columns_faithful_iff hc hb "orders"
  refine ⟨hc, hb, (hshows rfl _).mpr (hkeys _ ?_), rfl⟩
  intro r _ field hf
  cases List.mem_singleton.mp hf

/-- Grouped by the day before its month, a day stands in the column that selects the month. -/
theorem march_unshown :
    (countByMonth [.plain "day"]).checkIn daysScope = .ok () ∧
      ("day", .month) ∈ (countByMonth [.plain "day"]).implicitBuckets ∧
      ((countByMonth [.plain "day"]).body "orders").emitted? "day" =
        some (.truncated .month (.column (.bare "day"))) ∧
      (dayRow "2024-03-15").bucket? ("day", .month) = some (.str "2024-03-01") ∧
      (countByMonth [.plain "day"]).aggregate? [dayRow "2024-03-15"] =
        some [⟨[("day", .str "2024-03-15"), ("n", .int 1)]⟩] ∧
      ¬(countByMonth [.plain "day"]).ShowsBucket ("day", .month) [dayRow "2024-03-15"] := by
  refine ⟨rfl, List.mem_singleton_self _, rfl, rfl, rfl, fun h => ?_⟩
  have hday : some (Json.str "2024-03-15") = some (.str "2024-03-01") :=
    h _ rfl _ (List.mem_singleton_self _) _ (List.mem_singleton_self _)
  simp at hday

end TableQuery
