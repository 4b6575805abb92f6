import Mathlib.Data.List.Nodup
import TableQuery.Json.Record
import TableQuery.Proofs.Json.Rereading

namespace TableQuery.Json

namespace Decoder

variable {α β : Type}

def Yields (a : Decoder α) (x : α) : Prop := ∃ j, a.decode j = .ok x

/-- Whatever was read from some value is read again from what is written for it. -/
def Rereads (a : Decoder α) (encode : α → Json) : Prop :=
  ∀ x, a.Yields x → a.decode (encode x) = .ok x

theorem json_rereads : json.Rereads id := by
  rintro k ⟨j, hj⟩
  exact Draft.settled_of_toJson hj

theorem string_rereads : string.Rereads .str := fun _ _ => rfl

theorem binary64_rereads : binary64.Rereads .float := fun _ _ => rfl

theorem natural64_rereads {expected : String} : (natural64 expected).Rereads .ofNat := by
  rintro k ⟨j, hj⟩
  have hint (n : Int) : (natural64 expected).decode (.int n) =
      if Decimal.IntegerRange.uint64.contains n then .ok n.toNat
      else .error (.here (.invalidValue (.int n) expected)) := rfl
  cases j with
  | int n =>
      rw [hint] at hj
      cases hn : Decimal.IntegerRange.uint64.contains n with
      | false => simp [hn] at hj
      | true =>
          have hpos : 0 ≤ n := by
            rw [Decimal.IntegerRange.contains, Bool.and_eq_true, decide_eq_true_eq] at hn
            exact hn.1
          rw [hn, if_pos rfl] at hj
          cases hj
          rw [ofNat, Int.toNat_of_nonneg hpos, hint, hn, if_pos rfl]
  | _ => cases hj

theorem map_decode {f : α → β} {a : Decoder α} {j : Json} {x : α} (h : a.decode j = .ok x) :
    (a.map f).decode j = .ok (f x) := by
  change (a.decode j).map f = _
  rw [h]
  rfl

theorem map_yields {f : α → β} {a : Decoder α} {y : β} (h : (a.map f).Yields y) :
    ∃ x, a.Yields x ∧ y = f x := by
  obtain ⟨j, hj⟩ := h
  obtain ⟨x, hx, rfl⟩ := exists_of_map_eq_ok hj
  exact ⟨x, ⟨j, hx⟩, rfl⟩

theorem nullable_decode_of_ne {a : Decoder α} {j : Json} (hj : j ≠ .null) :
    a.nullable.decode j = (a.decode j).map some := by
  cases j with
  | null => exact absurd rfl hj
  | _ => rfl

theorem nullable_yields_some {a : Decoder α} {x : α} (h : a.nullable.Yields (some x)) :
    ∃ j, j ≠ .null ∧ a.decode j = .ok x := by
  obtain ⟨j, hj⟩ := h
  have hne : j ≠ .null := fun he => by
    subst he
    cases hj
  rw [nullable_decode_of_ne hne] at hj
  obtain ⟨y, hy, hxy⟩ := exists_of_map_eq_ok hj
  cases hxy
  exact ⟨j, hne, hy⟩

theorem named_eq_ok_iff {table : List (String × α)} {name : String} {x : α} :
    named table name = .ok x ↔ (table.find? (·.1 = name)).map Prod.snd = some x := by
  unfold named
  cases table.find? (·.1 = name) with
  | none => simp
  | some c => simp

theorem choice_yields {table : List (String × α)} {x : α} (h : (choice table).Yields x) :
    ∃ name, named table name = .ok x := by
  obtain ⟨j, hj⟩ := h
  cases j with
  | str name => exact ⟨name, hj⟩
  | obj fields =>
      obtain _ | ⟨⟨name, k⟩, _ | ⟨c, more⟩⟩ := fields
      · cases hj
      · simp only [decode, choice, Draft.ofJson, Draft.ofFields] at hj
        cases hx : named table name with
        | error r =>
            rw [hx] at hj
            cases hj
        | ok y =>
            cases hu : unit (.ofJson k) with
            | error r =>
                rw [hx, hu] at hj
                cases hj
            | ok _ =>
                rw [hx, hu] at hj
                cases hj
                exact ⟨name, hx⟩
      · cases hj
  | _ => cases hj

section Lists

variable {a : Decoder α}

theorem readItems_of_decode {encode : α → Json} {xs : List α}
    (h : ∀ x ∈ xs, a.decode (encode x) = .ok x) (index : Nat) :
    readItems a .value index (Draft.ofItems (xs.map encode)) = .ok xs := by
  induction xs generalizing index with
  | nil => rfl
  | cons x xs ih =>
      have hx : a.read .value (.ofJson (encode x)) = .ok x := h x List.mem_cons_self
      have hxs := ih (fun y hy => h y (List.mem_cons_of_mem _ hy)) (index + 1)
      simp only [List.map_cons, Draft.ofItems, readItems, hx, hxs]
      rfl

theorem list_decode {encode : α → Json} {xs : List α}
    (h : ∀ x ∈ xs, a.decode (encode x) = .ok x) :
    (list a).decode (.arr (xs.map encode)) = .ok xs := by
  have hread := readItems_of_decode h 0
  simp only [decode, list, Draft.ofJson, hread]

theorem yields_of_readItems {items : List Json} {xs : List α} {index : Nat}
    (h : readItems a .value index (Draft.ofItems items) = .ok xs) : ∀ x ∈ xs, a.Yields x := by
  induction items generalizing index xs with
  | nil =>
      cases h
      simp
  | cons j items ih =>
      unfold Draft.ofItems readItems at h
      cases hx : a.read .value (.ofJson j) with
      | error r =>
          rw [hx] at h
          cases h
      | ok x =>
          rw [hx] at h
          obtain ⟨ys, hys, rfl⟩ := exists_of_map_eq_ok h
          exact List.forall_mem_cons.mpr ⟨⟨j, hx⟩, ih hys⟩

theorem list_yields {xs : List α} (h : (list a).Yields xs) : ∀ x ∈ xs, a.Yields x := by
  obtain ⟨j, hj⟩ := h
  cases j with
  | arr items =>
      simp only [decode, list, Draft.ofJson] at hj
      cases hr : readItems a .value 0 (Draft.ofItems items) with
      | error r =>
          rw [hr] at hj
          cases hj
      | ok ys =>
          rw [hr] at hj
          cases hj
          exact yields_of_readItems hr
  | _ => cases hj

theorem list_rereads {encode : α → Json} (h : a.Rereads encode) :
    (list a).Rereads fun xs => .arr (xs.map encode) :=
  fun _ hxs => list_decode fun x hx => h x (list_yields hxs x hx)

end Lists

section FirstFitting

variable {type : String} {readers : List (Decoder α)} {j : Json} {x : α}

theorem toOption_eq_some_iff {ε : Type} {r : Except ε α} : r.toOption = some x ↔ r = .ok x := by
  cases r <;> simp [Except.toOption]

theorem firstFitting_decode_iff :
    (firstFitting type readers).decode j = .ok x ↔
      readers.findSome? (fun a => (a.decode j).toOption) = some x := by
  unfold decode firstFitting
  dsimp only
  cases (Draft.ofJson j).toJson <;>
    cases readers.findSome? fun a => (a.read .value (.ofJson j)).toOption <;> simp

theorem firstFitting_yields (h : (firstFitting type readers).Yields x) :
    ∃ a ∈ readers, a.Yields x := by
  obtain ⟨j, hj⟩ := h
  obtain ⟨a, ha, hx⟩ := List.exists_of_findSome?_eq_some (firstFitting_decode_iff.mp hj)
  exact ⟨a, ha, j, toOption_eq_some_iff.mp hx⟩

/-- A reader is asked if none before it accepts the value. -/
theorem firstFitting_decode (before : List (Decoder α)) {after : List (Decoder α)} {a : Decoder α}
    (hbefore : ∀ b ∈ before, ∀ y, b.decode j ≠ .ok y) (h : a.decode j = .ok x) :
    (firstFitting type (before ++ a :: after)).decode j = .ok x := by
  have hnone : before.findSome? (fun b => (b.decode j).toOption) = none := by
    refine List.findSome?_eq_none_iff.mpr fun b hb => ?_
    refine Option.eq_none_iff_forall_ne_some.mpr fun y hy => ?_
    exact hbefore b hb y (toOption_eq_some_iff.mp hy)
  rw [firstFitting_decode_iff, List.findSome?_append, hnone, Option.none_or, List.findSome?_cons,
    toOption_eq_some_iff.mpr h]

end FirstFitting

end Decoder

section Lookup

theorem field?_append (name : String) (fields more : List (String × Json)) :
    (obj (fields ++ more)).field? name =
      ((obj fields).field? name).or ((obj more).field? name) := by
  simp [field?, List.find?_append, Option.map_or]

theorem field?_eq_none {name : String} {fields : List (String × Json)}
    (h : name ∉ fields.map Prod.fst) : (obj fields).field? name = none := by
  rw [field?, Option.map_eq_none_iff, List.find?_eq_none]
  exact fun c hc hn => h (List.mem_map.mpr ⟨c, hc, of_decide_eq_true hn⟩)

end Lookup

/-- The parts hold JSON values. -/
def Fields.Plain (fields : Fields) : Prop :=
  ∀ index name slot, fields.get index name = .ok (some slot) → ∃ j, slot.draft = .ofJson j

namespace Record

variable {α β : Type}

theorem slotNamed_ofFields (name : String) (position : Nat) (fields : List (String × Json)) :
    (slotNamed name position (Draft.ofFields fields)).map Slot.draft =
      ((obj fields).field? name).map Draft.ofJson := by
  induction fields generalizing position with
  | nil => rfl
  | cons c rest ih =>
      obtain ⟨other, j⟩ := c
      by_cases hn : other = name
      · simp [Draft.ofFields, slotNamed, isNamed, Except.toOption, field?, hn]
      · have hother : (obj ((other, j) :: rest)).field? name = (obj rest).field? name := by
          simp [field?, hn]
        rw [hother, ← ih (position + 1)]
        simp [Draft.ofFields, slotNamed, isNamed, Except.toOption, hn]

theorem plain_ofObject (fields : List (String × Json)) :
    (ofObject (Draft.ofFields fields)).Plain := by
  intro index name slot h
  have hslot : slotNamed name 0 (Draft.ofFields fields) = some slot := Except.ok.inj h
  have hmap := slotNamed_ofFields name 0 fields
  rw [hslot, Option.map_some] at hmap
  obtain ⟨j, -, hj⟩ := Option.map_eq_some_iff.mp hmap.symm
  exact ⟨j, hj.symm⟩

theorem getElem?_ofItems (items : List Json) (index : Nat) :
    (Draft.ofItems items)[index]? = items[index]?.map Draft.ofJson := by
  induction items generalizing index with
  | nil => rfl
  | cons j rest ih =>
      cases index with
      | zero => rfl
      | succ index => simp [Draft.ofItems, ih]

theorem plain_ofList (expected : String) (items : List Json) :
    (ofList expected (Draft.ofItems items) none).Plain := by
  intro index name slot h
  simp only [ofList, getElem?_ofItems] at h
  cases hj : items[index]? with
  | none => simp [hj] at h
  | some j =>
      rw [hj] at h
      cases h
      exact ⟨j, rfl⟩

section Yields

/-- From the fields, at some index, `x` is read. -/
def Yields (r : Record α) (fields : Fields) (x : α) : Prop :=
  ∃ index, r.read .value fields index = .ok x

variable {name : String} {fields : Fields}

theorem yields_of_readSlot (hp : fields.Plain) {index : Nat} {slot : Slot} {a : Decoder α} {x : α}
    (hs : fields.get index name = .ok (some slot)) (h : readSlot a .value slot = .ok x) :
    a.Yields x := by
  obtain ⟨j, hj⟩ := hp index name slot hs
  unfold readSlot at h
  rw [hj] at h
  split at h
  · next y hy =>
      cases h
      exact ⟨j, hy⟩
  · cases h

theorem required_yields (hp : fields.Plain) {a : Decoder α} {x : α}
    (h : (required name a).Yields fields x) : a.Yields x := by
  obtain ⟨index, hr⟩ := h
  simp only [required] at hr
  split at hr
  · cases hr
  · cases hr
  · next slot hs => exact yields_of_readSlot hp hs hr

theorem defaulted_yields (hp : fields.Plain) {a : Decoder α} {value x : α}
    (h : (defaulted name value a).Yields fields x) : x = value ∨ a.Yields x := by
  obtain ⟨index, hr⟩ := h
  simp only [defaulted] at hr
  split at hr
  · cases hr
  · cases hr
    exact .inl rfl
  · next slot hs => exact .inr (yields_of_readSlot hp hs hr)

theorem optional_yields_some (hp : fields.Plain) {a : Decoder α} {x : α}
    (h : (optional name a).Yields fields (some x)) : ∃ j, j ≠ .null ∧ a.decode j = .ok x := by
  obtain hx | hx := defaulted_yields hp h
  · cases hx
  · exact Decoder.nullable_yields_some hx

theorem map_yields {f : α → β} {r : Record α} {y : β} (h : (f <$> r).Yields fields y) :
    ∃ x, r.Yields fields x ∧ y = f x := by
  obtain ⟨index, hr⟩ := h
  obtain ⟨x, hx, rfl⟩ := exists_of_map_eq_ok hr
  exact ⟨x, ⟨index, hx⟩, rfl⟩

theorem seq_yields {f : Record (α → β)} {r : Record α} {y : β}
    (h : (f <*> r).Yields fields y) :
    ∃ g x, f.Yields fields g ∧ r.Yields fields x ∧ y = g x := by
  obtain ⟨index, hr⟩ := h
  change (apply f r).read .value fields index = .ok y at hr
  simp only [apply] at hr
  split at hr
  · next g x hg hx =>
      cases hr
      exact ⟨g, x, ⟨_, hg⟩, ⟨_, hx⟩, rfl⟩
  all_goals cases hr

theorem withMisfit_eq_ok_iff {result : Except Misfit α} {m : Option Misfit} {x : α} :
    withMisfit result m = .ok x ↔ result = .ok x ∧ m = none := by
  cases m <;> cases result <;> simp [withMisfit, Except.mapError]

variable {type : String} {r : Record α}

theorem decode_obj (fields : List (String × Json)) :
    (r.decoder type).decode (.obj fields) =
      withMisfit (r.read .value (ofObject (Draft.ofFields fields)) 0)
        (firstMisfit r.names [] 0 (Draft.ofFields fields)) := by
  simp only [Decoder.decode, decoder, Draft.ofJson, Option.map_none]
  cases firstMisfit r.names [] 0 (Draft.ofFields fields) <;> rfl

theorem yields_of_decode_obj {fields : List (String × Json)} {x : α}
    (h : (r.decoder type).decode (.obj fields) = .ok x) :
    r.Yields (ofObject (Draft.ofFields fields)) x := by
  rw [decode_obj, withMisfit_eq_ok_iff] at h
  exact ⟨0, h.1⟩

theorem decoder_yields {x : α} (h : (r.decoder type).Yields x) :
    ∃ fields : Fields, fields.Plain ∧ r.Yields fields x := by
  obtain ⟨j, hj⟩ := h
  cases j with
  | obj fields => exact ⟨_, plain_ofObject fields, yields_of_decode_obj hj⟩
  | arr items => exact ⟨_, plain_ofList _ items, 0, (withMisfit_eq_ok_iff.mp hj).1⟩
  | _ => cases hj

theorem required_present {fields : List (String × Json)} {a : Decoder α} {x : α}
    (h : (required name a).Yields (ofObject (Draft.ofFields fields)) x) :
    (obj fields).field? name ≠ none := by
  intro hnone
  have hmap := slotNamed_ofFields name 0 fields
  rw [hnone, Option.map_none, Option.map_eq_none_iff] at hmap
  obtain ⟨index, hr⟩ := h
  simp only [required, ofObject, hmap] at hr
  cases hr

end Yields

section Reads

/-- The record is read as `x` from every object that has the given fields under the record's
names. -/
structure Reads (r : Record α) (part : List (String × Json)) (x : α) : Prop where
  names : (part.map Prod.fst).Sublist r.names
  read : ∀ all index, (∀ name ∈ r.names, (obj all).field? name = (obj part).field? name) →
    r.read .value (ofObject (Draft.ofFields all)) index = .ok x

variable {name : String} {all : List (String × Json)}

theorem slotNamed_of_field? {j : Json} (h : (obj all).field? name = some j) :
    ∃ slot, slotNamed name 0 (Draft.ofFields all) = some slot ∧ slot.draft = .ofJson j := by
  have hmap := slotNamed_ofFields name 0 all
  rw [h, Option.map_some] at hmap
  exact Option.map_eq_some_iff.mp hmap

theorem slotNamed_of_field?_none (h : (obj all).field? name = none) :
    slotNamed name 0 (Draft.ofFields all) = none := by
  have hmap := slotNamed_ofFields name 0 all
  rw [h, Option.map_none] at hmap
  exact Option.map_eq_none_iff.mp hmap

theorem readSlot_of_decode {a : Decoder α} {slot : Slot} {j : Json} {x : α}
    (hj : slot.draft = .ofJson j) (h : a.decode j = .ok x) : readSlot a .value slot = .ok x := by
  have hread : a.read .value slot.draft = .ok x := hj ▸ h
  rw [readSlot, hread]

theorem field?_single (name : String) (j : Json) : (obj [(name, j)]).field? name = some j := by
  simp [field?]

theorem exists_slot {j : Json} {a : Decoder α} {x : α}
    (h : (obj all).field? name = (obj [(name, j)]).field? name) (hx : a.decode j = .ok x) :
    ∃ slot, slotNamed name 0 (Draft.ofFields all) = some slot ∧
      readSlot a .value slot = .ok x := by
  obtain ⟨slot, hs, hd⟩ := slotNamed_of_field? (h.trans (field?_single name j))
  exact ⟨slot, hs, readSlot_of_decode hd hx⟩

theorem required_reads {a : Decoder α} {j : Json} {x : α} (h : a.decode j = .ok x) :
    (required name a).Reads [(name, j)] x where
  names := List.Sublist.refl _
  read all index hall := by
    obtain ⟨slot, hs, hx⟩ := exists_slot (hall name (List.mem_singleton_self name)) h
    simp only [required, ofObject, hs, hx]

theorem defaulted_reads {a : Decoder α} {value : α} {j : Json} {x : α} (h : a.decode j = .ok x) :
    (defaulted name value a).Reads [(name, j)] x where
  names := List.Sublist.refl _
  read all index hall := by
    obtain ⟨slot, hs, hx⟩ := exists_slot (hall name (List.mem_singleton_self name)) h
    simp only [defaulted, ofObject, hs, hx]

theorem defaulted_reads_absent {a : Decoder α} {value : α} :
    (defaulted name value a).Reads [] value where
  names := List.nil_sublist _
  read all index hall := by
    have hnone := slotNamed_of_field?_none (hall name (by simp [defaulted]))
    simp only [defaulted, ofObject, hnone]

theorem map_reads {f : α → β} {r : Record α} {part : List (String × Json)} {x : α}
    (h : r.Reads part x) : (f <$> r).Reads part (f x) where
  names := h.names
  read all index hall := by
    change (r.read .value _ index).map f = _
    rw [h.read all index hall]
    rfl

/-- Records with different names are read side by side. -/
theorem seq_reads {f : Record (α → β)} {r : Record α} {part more : List (String × Json)}
    {g : α → β} {x : α} (hf : f.Reads part g) (hr : r.Reads more x)
    (hd : (f.names ++ r.names).Nodup) : (f <*> r).Reads (part ++ more) (g x) where
  names := by
    rw [List.map_append]
    exact hf.names.append hr.names
  read all index hall := by
    -- Each record finds its own part, since the other part has none of its names.
    have hdisjoint := (List.nodup_append.mp hd).2.2
    have hpart (name : String) (hn : name ∈ f.names) :
        (obj all).field? name = (obj part).field? name := by
      have hmore : name ∉ more.map Prod.fst := fun hm =>
        hdisjoint name hn name (hr.names.subset hm) rfl
      rw [hall name (List.mem_append_left _ hn), field?_append, field?_eq_none hmore,
        Option.or_none]
    have hrest (name : String) (hn : name ∈ r.names) :
        (obj all).field? name = (obj more).field? name := by
      have hnot : name ∉ part.map Prod.fst := fun hm =>
        hdisjoint name (hf.names.subset hm) name hn rfl
      rw [hall name (List.mem_append_right _ hn), field?_append, field?_eq_none hnot,
        Option.none_or]
    change (apply f r).read .value _ index = _
    simp only [apply, hf.read all _ hpart, hr.read all _ hrest]

theorem firstMisfit_eq_none {known seen : List String} {fields : List (String × Json)}
    {position : Nat} (hknown : ∀ name ∈ fields.map Prod.fst, name ∈ known)
    (hd : (seen ++ fields.map Prod.fst).Nodup) :
    firstMisfit known seen position (Draft.ofFields fields) = none := by
  induction fields generalizing seen position with
  | nil => rfl
  | cons c rest ih =>
      obtain ⟨name, j⟩ := c
      have hname : known.contains name = true := by simpa using hknown name (by simp)
      have hnew : seen.contains name = false := by
        have hn : name ∉ seen := fun hm =>
          (List.nodup_append.mp hd).2.2 name hm name (by simp) rfl
        simpa using hn
      have hd' : ((name :: seen) ++ rest.map Prod.fst).Nodup :=
        (List.perm_middle.nodup_iff).mp hd
      simp only [Draft.ofFields, firstMisfit, hname, hnew, if_true]
      exact ih (fun n hn => hknown n (List.mem_cons_of_mem _ hn)) hd'

variable {type : String} {r : Record α}

theorem decode_of_reads {part : List (String × Json)} {x : α} (hn : r.names.Nodup)
    (h : r.Reads part x) : (r.decoder type).decode (.obj part) = .ok x := by
  rw [decode_obj, withMisfit_eq_ok_iff]
  exact ⟨h.read part 0 fun _ _ => rfl,
    firstMisfit_eq_none (fun n hm => h.names.subset hm) (h.names.nodup hn)⟩

theorem decoder_rereads {encode : α → Json} (hn : r.names.Nodup)
    (h : ∀ (fields : Fields) (x : α), fields.Plain → r.Yields fields x →
      ∃ part, encode x = .obj part ∧ r.Reads part x) :
    (r.decoder type).Rereads encode := by
  intro x hx
  obtain ⟨fields, hp, hr⟩ := decoder_yields hx
  obtain ⟨part, hpart, hreads⟩ := h fields x hp hr
  rw [hpart]
  exact decode_of_reads hn hreads

end Reads

end Record

end TableQuery.Json
