import TableQuery.Proofs.Json.RecordFields
import TableQuery.Proofs.Query.OutputColumns
import TableQuery.Query.Decoding
import TableQuery.Query.Encoding

namespace TableQuery

open Json Json.Decoder Json.Record

section Fields

variable {α : Type} {name : String} {a : Decoder α} {encode : α → Json}

theorem choice_rereads {name : α → String} {all : List α} (hd : (all.map name).Nodup) :
    (choice (variants name all)).Rereads fun x => .str (name x) := by
  intro x hx
  obtain ⟨text, htext⟩ := choice_yields hx
  obtain ⟨c, hc, rfl⟩ := Option.map_eq_some_iff.mp (named_eq_ok_iff.mp htext)
  obtain ⟨y, hy, rfl⟩ := List.mem_map.mp (List.mem_of_find?_eq_some hc)
  have hfind : (all.find? fun z => name z = name y) = some y := find?_key_eq_some hd hy
  refine named_eq_ok_iff.mpr ?_
  rw [variants, List.find?_map]
  change ((all.find? fun z => name z = name y).map _).map _ = _
  rw [hfind]
  rfl

variable {fields : Fields} (hp : fields.Plain) (ha : a.Rereads encode)

include hp ha

theorem requiredField_reads {x : α} (h : (required name a).Yields fields x) :
    (required name a).Reads [(name, encode x)] x :=
  required_reads (ha _ (required_yields hp h))

theorem writtenField_reads {value x : α} (hv : a.Yields value)
    (h : (defaulted name value a).Yields fields x) :
    (defaulted name value a).Reads [(name, encode x)] x := by
  obtain rfl | hx := defaulted_yields hp h
  · exact defaulted_reads (ha _ hv)
  · exact defaulted_reads (ha _ hx)

theorem listField_reads {xs : List α} (h : (defaulted name [] (.list a)).Yields fields xs) :
    (defaulted name [] (.list a)).Reads (listField name encode xs) xs := by
  have hitems : ∀ x ∈ xs, a.Yields x := by
    obtain rfl | hxs := defaulted_yields hp h
    · simp
    · exact list_yields hxs
  cases xs with
  | nil => exact defaulted_reads_absent
  | cons x rest => exact defaulted_reads (list_decode fun y hy => ha y (hitems y hy))

theorem optionField_reads {o : Option α}
    (hne : ∀ j x, j ≠ .null → a.decode j = .ok x → encode x ≠ .null)
    (h : (optional name a).Yields fields o) :
    (optional name a).Reads (optionField name encode o) o := by
  cases o with
  | none => exact defaulted_reads_absent
  | some x =>
      obtain ⟨j, hj, hx⟩ := optional_yields_some hp h
      refine defaulted_reads ?_
      rw [nullable_decode_of_ne (hne j x hj hx), ha x ⟨j, hx⟩]
      rfl

end Fields

theorem json_ne_null (j k : Json) (hj : j ≠ .null) (h : Decoder.json.decode j = .ok k) :
    id k ≠ .null := by
  rintro rfl
  exact Draft.toJson_ofJson_ne_null hj h

theorem Direction.decoder_rereads : Direction.decoder.Rereads fun d => .str d.name :=
  choice_rereads (by decide)

theorem Calendar.Bucket.decoder_rereads :
    Calendar.Bucket.decoder.Rereads fun b => .str b.name :=
  choice_rereads (by decide)

theorem AggregateFunction.decoder_rereads :
    AggregateFunction.decoder.Rereads fun f => .str f.name :=
  choice_rereads (by decide)

theorem WindowFunction.decoder_rereads : WindowFunction.decoder.Rereads fun f => .str f.name :=
  choice_rereads (by decide)

theorem FilterOp.decoder_rereads : FilterOp.decoder.Rereads fun op => .str op.name :=
  choice_rereads (by decide)

theorem JoinKind.decoder_rereads : JoinKind.decoder.Rereads fun k => .str k.name :=
  choice_rereads (by decide)

theorem OrderTerm.decoder_rereads : OrderTerm.decoder.Rereads OrderTerm.encode := by
  refine Record.decoder_rereads (by decide) fun fields t hp h₂ => ?_
  obtain ⟨_, direction, h₁, hdirection, rfl⟩ := seq_yields h₂
  obtain ⟨field, hfield, rfl⟩ := map_yields h₁
  have hpart := map_reads (f := OrderTerm.mk) (requiredField_reads hp string_rereads hfield)
  exact ⟨_, rfl, seq_reads hpart
    (writtenField_reads hp Direction.decoder_rereads ⟨.str "asc", rfl⟩ hdirection) (by decide)⟩

theorem AggregateField.decoder_rereads : AggregateField.decoder.Rereads AggregateField.encode := by
  refine Record.decoder_rereads (by decide) fun fields a hp h₄ => ?_
  obtain ⟨_, percentile, h₃, hpercentile, rfl⟩ := seq_yields h₄
  obtain ⟨_, label, h₂, hlabel, rfl⟩ := seq_yields h₃
  obtain ⟨_, function, h₁, hfunction, rfl⟩ := seq_yields h₂
  obtain ⟨field, hfield, rfl⟩ := map_yields h₁
  have hpart := map_reads (f := AggregateField.mk) (requiredField_reads hp string_rereads hfield)
  have hpart := seq_reads hpart
    (requiredField_reads hp AggregateFunction.decoder_rereads hfunction) (by decide)
  have hpart := seq_reads hpart (requiredField_reads hp string_rereads hlabel) (by decide)
  exact ⟨_, rfl, seq_reads hpart
    (optionField_reads hp binary64_rereads (by simp) hpercentile) (by decide)⟩

theorem WindowField.decoder_rereads : WindowField.decoder.Rereads WindowField.encode := by
  refine Record.decoder_rereads (by decide) fun fields w hp h₇ => ?_
  obtain ⟨_, fallback, h₆, hfallback, rfl⟩ := seq_yields h₇
  obtain ⟨_, offset, h₅, hoffset, rfl⟩ := seq_yields h₆
  obtain ⟨_, orderBy, h₄, horder, rfl⟩ := seq_yields h₅
  obtain ⟨_, partitionBy, h₃, hpartition, rfl⟩ := seq_yields h₄
  obtain ⟨_, label, h₂, hlabel, rfl⟩ := seq_yields h₃
  obtain ⟨_, field, h₁, hfield, rfl⟩ := seq_yields h₂
  obtain ⟨function, hfunction, rfl⟩ := map_yields h₁
  have hpart := map_reads (f := WindowField.mk)
    (requiredField_reads hp WindowFunction.decoder_rereads hfunction)
  have hpart := seq_reads hpart (optionField_reads hp string_rereads (by simp) hfield) (by decide)
  have hpart := seq_reads hpart (requiredField_reads hp string_rereads hlabel) (by decide)
  have hpart := seq_reads hpart (listField_reads hp string_rereads hpartition) (by decide)
  have hpart := seq_reads hpart (listField_reads hp OrderTerm.decoder_rereads horder) (by decide)
  have hpart := seq_reads hpart
    (optionField_reads hp natural64_rereads (by simp [ofNat]) hoffset) (by decide)
  exact ⟨_, rfl, seq_reads hpart
    (optionField_reads hp json_rereads json_ne_null hfallback) (by decide)⟩

theorem GroupField.bucketedDecoder_rereads :
    GroupField.bucketedDecoder.Rereads GroupField.encode := by
  refine Record.decoder_rereads (by decide) fun fields g hp h₂ => ?_
  obtain ⟨_, bucket, h₁, hbucket, rfl⟩ := seq_yields h₂
  obtain ⟨field, hfield, rfl⟩ := map_yields h₁
  have hpart := map_reads (f := GroupField.bucketed)
    (requiredField_reads hp string_rereads hfield)
  exact ⟨_, rfl, seq_reads hpart
    (requiredField_reads hp Calendar.Bucket.decoder_rereads hbucket) (by decide)⟩

theorem Filter.decoder_rereads : Filter.decoder.Rereads Filter.encode := by
  refine Record.decoder_rereads (by decide) fun fields f hp h₃ => ?_
  obtain ⟨_, value, h₂, hvalue, rfl⟩ := seq_yields h₃
  obtain ⟨_, op, h₁, hop, rfl⟩ := seq_yields h₂
  obtain ⟨field, hfield, rfl⟩ := map_yields h₁
  have hpart := map_reads (f := Filter.mk) (requiredField_reads hp string_rereads hfield)
  have hpart := seq_reads hpart (requiredField_reads hp FilterOp.decoder_rereads hop) (by decide)
  exact ⟨_, rfl, seq_reads hpart
    (optionField_reads hp json_rereads json_ne_null hvalue) (by decide)⟩

def Join.encodeKeys (keys : String × String) : Json :=
  .obj [("left", .str keys.1), ("right", .str keys.2)]

theorem Join.keysDecoder_rereads : Join.keysDecoder.Rereads Join.encodeKeys := by
  refine Record.decoder_rereads (by decide) fun fields keys hp h₂ => ?_
  obtain ⟨_, right, h₁, hright, rfl⟩ := seq_yields h₂
  obtain ⟨left, hleft, rfl⟩ := map_yields h₁
  have hpart := map_reads (f := Prod.mk (β := String))
    (requiredField_reads hp string_rereads hleft)
  exact ⟨_, rfl, seq_reads hpart (requiredField_reads hp string_rereads hright) (by decide)⟩

theorem Join.decoder_rereads : Join.decoder.Rereads Join.encode := by
  refine Record.decoder_rereads (by decide) fun fields j hp h₃ => ?_
  obtain ⟨_, kind, h₂, hkind, rfl⟩ := seq_yields h₃
  obtain ⟨_, keys, h₁, hkeys, rfl⟩ := seq_yields h₂
  obtain ⟨table, htable, rfl⟩ := map_yields h₁
  have hpart := map_reads
    (f := fun table (keys : String × String) kind => Join.mk table keys.1 keys.2 kind)
    (requiredField_reads hp string_rereads htable)
  have hpart := seq_reads hpart (requiredField_reads hp Join.keysDecoder_rereads hkeys) (by decide)
  exact ⟨_, rfl, seq_reads hpart
    (writtenField_reads hp JoinKind.decoder_rereads ⟨.str "left", rfl⟩ hkind) (by decide)⟩

section Untagged

theorem string_refuses_obj {α : Type} {f : String → α} {fields : List (String × Json)} :
    ∀ b ∈ [Decoder.string.map f], ∀ x, b.decode (.obj fields) ≠ .ok x := by
  intro b hb x h
  obtain rfl := List.mem_singleton.mp hb
  cases h

theorem GroupField.decoder_rereads : GroupField.decoder.Rereads GroupField.encode := by
  intro g hg
  obtain ⟨a, ha, hg⟩ := firstFitting_yields hg
  obtain rfl | ha := List.mem_cons.mp ha
  · obtain ⟨field, -, rfl⟩ := Decoder.map_yields hg
    exact firstFitting_decode [] (by simp) rfl
  · obtain rfl := List.mem_singleton.mp ha
    have hdecode := GroupField.bucketedDecoder_rereads g hg
    obtain ⟨fields, -, h₂⟩ := decoder_yields hg
    obtain ⟨_, bucket, h₁, -, rfl⟩ := seq_yields h₂
    obtain ⟨field, -, rfl⟩ := Record.map_yields h₁
    exact firstFitting_decode [_] string_refuses_obj hdecode

theorem AggregateField.encode_is_no_window (a : AggregateField) (w : WindowField) :
    WindowField.decoder.decode a.encode ≠ .ok w := by
  intro h
  obtain ⟨_, _, h₆, -, -⟩ := seq_yields (yields_of_decode_obj h)
  obtain ⟨_, _, h₅, -, -⟩ := seq_yields h₆
  obtain ⟨_, _, h₄, -, -⟩ := seq_yields h₅
  obtain ⟨_, _, h₃, -, -⟩ := seq_yields h₄
  obtain ⟨_, _, h₂, -, -⟩ := seq_yields h₃
  obtain ⟨_, _, h₁, -, -⟩ := seq_yields h₂
  obtain ⟨_, hwindow, -⟩ := map_yields h₁
  refine required_present hwindow (field?_eq_none ?_)
  cases a.percentile <;> simp [optionField]

theorem SelectField.decoder_rereads : SelectField.decoder.Rereads SelectField.encode := by
  intro s hs
  obtain ⟨a, ha, hs⟩ := firstFitting_yields hs
  simp only [List.mem_cons, List.not_mem_nil, or_false] at ha
  obtain rfl | rfl | rfl := ha
  · obtain ⟨field, -, rfl⟩ := Decoder.map_yields hs
    exact firstFitting_decode [] (by simp) rfl
  · obtain ⟨w, hw, rfl⟩ := Decoder.map_yields hs
    have hdecode := map_decode (f := SelectField.window) (WindowField.decoder_rereads w hw)
    exact firstFitting_decode [_] string_refuses_obj hdecode
  · obtain ⟨a, ha, rfl⟩ := Decoder.map_yields hs
    have hdecode := map_decode (f := SelectField.aggregate) (AggregateField.decoder_rereads a ha)
    refine firstFitting_decode
      [.map .column .string, .map .window WindowField.decoder] ?_ hdecode
    intro b hb x h
    obtain hb | hb := List.mem_cons.mp hb
    · exact string_refuses_obj b (List.mem_singleton.mpr hb) x h
    · obtain rfl := List.mem_singleton.mp hb
      obtain ⟨w, hw, -⟩ := exists_of_map_eq_ok h
      exact a.encode_is_no_window w hw

end Untagged

theorem Query.decoder_rereads : Query.decoder.Rereads Query.encode := by
  refine Record.decoder_rereads (by decide) fun fields q hp h₇ => ?_
  obtain ⟨_, limit, h₆, hlimit, rfl⟩ := seq_yields h₇
  obtain ⟨_, orderBy, h₅, horder, rfl⟩ := seq_yields h₆
  obtain ⟨_, having, h₄, hhaving, rfl⟩ := seq_yields h₅
  obtain ⟨_, filter, h₃, hfilter, rfl⟩ := seq_yields h₄
  obtain ⟨_, groupBy, h₂, hgroup, rfl⟩ := seq_yields h₃
  obtain ⟨_, select, h₁, hselect, rfl⟩ := seq_yields h₂
  obtain ⟨join, hjoin, rfl⟩ := map_yields h₁
  have hpart := map_reads (f := Query.mk) (listField_reads hp Join.decoder_rereads hjoin)
  have hpart := seq_reads hpart
    (requiredField_reads hp (list_rereads SelectField.decoder_rereads) hselect) (by decide)
  have hpart := seq_reads hpart (listField_reads hp GroupField.decoder_rereads hgroup) (by decide)
  have hpart := seq_reads hpart (listField_reads hp Filter.decoder_rereads hfilter) (by decide)
  have hpart := seq_reads hpart (listField_reads hp Filter.decoder_rereads hhaving) (by decide)
  have hpart := seq_reads hpart (listField_reads hp OrderTerm.decoder_rereads horder) (by decide)
  exact ⟨_, rfl, seq_reads hpart
    (optionField_reads hp natural64_rereads (by simp [ofNat]) hlimit) (by decide)⟩

/-- A query that was read is what is read from what it is written as, which is thus written again
in the same way. -/
theorem query_round_trip {j : Json} {q : Query} (h : Query.decoder.decode j = .ok q) :
    Query.decoder.decode q.encode = .ok q ∧
      (Query.decoder.decode q.encode).map Query.encode = .ok q.encode := by
  have hread := Query.decoder_rereads q ⟨j, h⟩
  refine ⟨hread, ?_⟩
  rw [hread]
  rfl

def mixedQuery : Json := .obj [("limit", .null), ("note", .null),
  ("select", .arr [.str "region", .arr [.str "rank", .null, .str "place"],
    .obj [("field", .str "amount"), ("aggregate", .str "sum"), ("window", .str "lag"),
      ("as", .str "before")]]),
  ("groupBy", .arr [.arr [.str "day", .str "month"]]),
  ("filter", .arr [.obj [("value", .null), ("op", .obj [("=", .null)]), ("field", .str "day")]]),
  ("orderBy", .arr [.obj [("field", .str "before")]])]

theorem mixedQuery_round_trip :
    ∃ q, Query.decoder.decode mixedQuery = .ok q ∧ Query.decoder.decode q.encode = .ok q :=
  ⟨_, rfl, (query_round_trip (j := mixedQuery) rfl).1⟩

end TableQuery
