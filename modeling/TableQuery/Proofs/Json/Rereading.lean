import Mathlib.Tactic.Common
import TableQuery.Json.Decoder

namespace TableQuery.Json

theorem exists_of_map_eq_ok {ε α β : Type} {f : α → β} {x : Except ε α} {y : β}
    (h : x.map f = .ok y) : ∃ a, x = .ok a ∧ y = f a := by
  cases x with
  | error r => cases h
  | ok a =>
      cases h
      exact ⟨a, rfl, rfl⟩

theorem putField_of_not_mem {name : String} {j : Json} {fields : List (String × Json)}
    (h : name ∉ fields.map Prod.fst) : putField name j fields = fields ++ [(name, j)] := by
  induction fields with
  | nil => rfl
  | cons c rest ih =>
      rw [List.map_cons, List.mem_cons, not_or] at h
      simp [putField, Ne.symm h.1, ih h.2]

theorem mem_putField {name : String} {j : Json} {fields : List (String × Json)}
    {c : String × Json} (h : c ∈ putField name j fields) : c = (name, j) ∨ c ∈ fields := by
  induction fields with
  | nil => exact .inl (List.mem_singleton.mp h)
  | cons d rest ih =>
      obtain ⟨other, k⟩ := d
      unfold putField at h
      split at h
      · exact (List.mem_cons.mp h).imp_right (List.mem_cons_of_mem _)
      · obtain rfl | hc := List.mem_cons.mp h
        · exact .inr List.mem_cons_self
        · exact (ih hc).imp_right (List.mem_cons_of_mem _)

theorem map_fst_putField (name : String) (j : Json) (fields : List (String × Json)) :
    (putField name j fields).map Prod.fst =
      if name ∈ fields.map Prod.fst then fields.map Prod.fst
      else fields.map Prod.fst ++ [name] := by
  induction fields with
  | nil => rfl
  | cons c rest ih =>
      obtain ⟨other, k⟩ := c
      by_cases ho : other = name
      · simp [putField, ho]
      · simp only [putField, ho, if_false, List.map_cons, ih, List.mem_cons, Ne.symm ho,
          false_or]
        split <;> rfl

theorem nodup_putField {name : String} {j : Json} {fields : List (String × Json)}
    (h : (fields.map Prod.fst).Nodup) : ((putField name j fields).map Prod.fst).Nodup := by
  rw [map_fst_putField]
  split
  · exact h
  · next hn => exact List.nodup_append.mpr ⟨h, by simp, by simp; grind⟩

/-- The value reads back as it is. -/
def Settled (j : Json) : Prop := (Draft.ofJson j).toJson = .ok j

namespace Draft

theorem toItems_of_settled {items : List Json} (h : ∀ j ∈ items, j.Settled) (index : Nat) :
    toItems index (ofItems items) = .ok items := by
  induction items generalizing index with
  | nil => rfl
  | cons j rest ih =>
      have hj : (ofJson j).toJson = .ok j := h j List.mem_cons_self
      have hrest := ih (fun k hk => h k (List.mem_cons_of_mem _ hk)) (index + 1)
      simp only [ofItems, toItems, hj, hrest]
      rfl

theorem toFields_of_settled {fields : List (String × Json)} (h : ∀ c ∈ fields, c.2.Settled)
    {read : List (String × Json)} (hd : ((read ++ fields).map Prod.fst).Nodup) :
    toFields read (ofFields fields) = .ok (read ++ fields) := by
  induction fields generalizing read with
  | nil => simp [ofFields, toFields]
  | cons c rest ih =>
      obtain ⟨name, j⟩ := c
      have hj : (ofJson j).toJson = .ok j := h (name, j) List.mem_cons_self
      have hnew : name ∉ read.map Prod.fst := fun hm => by
        rw [List.map_append] at hd
        exact (List.nodup_append.mp hd).2.2 name hm name (by simp) rfl
      have hassoc : (read ++ [(name, j)]) ++ rest = read ++ (name, j) :: rest := by simp
      simp only [ofFields, toFields, hj, putField_of_not_mem hnew]
      rw [ih (fun c hc => h c (List.mem_cons_of_mem _ hc)) (hassoc ▸ hd), hassoc]

theorem toJson_arr (items : List Json) :
    (ofJson (.arr items)).toJson = (toItems 0 (ofItems items)).map .arr := by
  unfold ofJson toJson
  cases toItems 0 (ofItems items) <;> rfl

theorem toJson_obj (fields : List (String × Json)) :
    (ofJson (.obj fields)).toJson = (toFields [] (ofFields fields)).map .obj := by
  unfold ofJson toJson
  cases toFields [] (ofFields fields) <;> rfl

theorem toJson_ofJson_ne_null {j : Json} (hj : j ≠ .null) : (ofJson j).toJson ≠ .ok .null := by
  intro h
  cases j with
  | null => exact hj rfl
  | arr items =>
      rw [toJson_arr] at h
      obtain ⟨ks, -, hks⟩ := exists_of_map_eq_ok h
      cases hks
  | obj fields =>
      rw [toJson_obj] at h
      obtain ⟨ks, -, hks⟩ := exists_of_map_eq_ok h
      cases hks
  | _ => cases h

mutual

-- By recursion on the value. Its fields are read one after the other, so the last of the three
-- theorems carries what was read before: settled values under different names.

theorem settled_of_toJson : ∀ {j k : Json}, (ofJson j).toJson = .ok k → k.Settled
  | .null, _, h | .bool _, _, h | .int _, _, h | .float _, _, h | .str _, _, h => by
    cases h
    rfl
  | .arr items, k, h => by
    rw [toJson_arr] at h
    obtain ⟨ks, hks, rfl⟩ := exists_of_map_eq_ok h
    rw [Settled, toJson_arr, toItems_of_settled (settled_of_toItems hks)]
    rfl
  | .obj fields, k, h => by
    rw [toJson_obj] at h
    obtain ⟨ks, hks, rfl⟩ := exists_of_map_eq_ok h
    obtain ⟨hsettled, hd⟩ := settled_of_toFields (by simp) (by simp) hks
    have hread : toFields [] (ofFields ks) = .ok ([] ++ ks) := toFields_of_settled hsettled hd
    rw [Settled, toJson_obj, hread]
    rfl

theorem settled_of_toItems : ∀ {items ks : List Json} {index : Nat},
    toItems index (ofItems items) = .ok ks → ∀ k ∈ ks, k.Settled
  | [], ks, _, h => by
    cases h
    simp
  | j :: rest, ks, index, h => by
    unfold ofItems toItems at h
    cases hj : (ofJson j).toJson with
    | error r =>
        rw [hj] at h
        cases h
    | ok k =>
        rw [hj] at h
        obtain ⟨ls, hrest, rfl⟩ := exists_of_map_eq_ok h
        exact List.forall_mem_cons.mpr ⟨settled_of_toJson hj, settled_of_toItems hrest⟩

theorem settled_of_toFields : ∀ {fields read ks : List (String × Json)},
    (∀ c ∈ read, c.2.Settled) → (read.map Prod.fst).Nodup →
    toFields read (ofFields fields) = .ok ks →
    (∀ c ∈ ks, c.2.Settled) ∧ (ks.map Prod.fst).Nodup
  | [], read, ks, hr, hd, h => by
    cases h
    exact ⟨hr, hd⟩
  | (name, j) :: rest, read, ks, hr, hd, h => by
    unfold ofFields toFields at h
    cases hj : (ofJson j).toJson with
    | error r =>
        rw [hj] at h
        cases h
    | ok k =>
        rw [hj] at h
        have hput : ∀ c ∈ putField name k read, c.2.Settled := fun c hc => by
          obtain rfl | hc := mem_putField hc
          · exact settled_of_toJson hj
          · exact hr c hc
        exact settled_of_toFields hput (nodup_putField hd) h

end

end Draft

end TableQuery.Json
