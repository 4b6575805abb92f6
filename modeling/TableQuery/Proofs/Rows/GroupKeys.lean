import Mathlib.Data.List.Forall2
import TableQuery.Proofs.Query.FieldNames
import TableQuery.Proofs.Rows.Partitions
import TableQuery.Rows.Interpretation

namespace TableQuery

section Joining

variable {mark : Char}

theorem append_mark_inj {xs ys r s : List Char} (h : xs ++ mark :: r = ys ++ mark :: s)
    (hc : xs.count mark = ys.count mark) : xs = ys ∧ r = s := by
  rcases Text.cut_eq_cut_cases h with hs | ⟨between, -, rfl⟩ | ⟨between, -, rfl⟩
  · exact hs
  · simp at hc
  · simp at hc

/-- Joined lists are told apart when it is known how many marks each of them has. -/
theorem intercalate_inj {xs ys : List (List Char)}
    (hc : xs.map (List.count mark) = ys.map (List.count mark))
    (h : [mark].intercalate xs = [mark].intercalate ys) : xs = ys := by
  induction xs generalizing ys with
  | nil => cases ys <;> simp_all
  | cons x xs ih =>
      cases ys with
      | nil => simp at hc
      | cons y ys =>
          obtain ⟨hx, hr⟩ := List.cons.inj hc
          cases xs with
          | nil => cases ys <;> simp_all
          | cons x' xs =>
              cases ys with
              | nil => simp at hr
              | cons y' ys =>
                  have ha : x ++ mark :: [mark].intercalate (x' :: xs) =
                      y ++ mark :: [mark].intercalate (y' :: ys) := by simpa using h
                  obtain ⟨rfl, hi⟩ := append_mark_inj ha hx
                  rw [ih hr hi]

end Joining

namespace Cell

/-- Both cells are missing, or both are there with the same text. -/
def SameText (a b : Option Json) : Prop :=
  (isMissing a ∧ isMissing b) ∨ ∃ t, a.bind text? = some t ∧ b.bind text? = some t

/-- The parts have the same texts position by position. -/
def Agree (p q : List (Option Json)) : Prop := List.Forall₂ SameText p q

def separators (part : Option Json) : Nat := (keyPart part).toList.count '\x1f'

/-- The parts have, position by position, equally many separators, and miss the same positions. -/
def SameMarks (p q : List (Option Json)) : Prop :=
  p.map separators = q.map separators ∧ p.map isMissing = q.map isMissing

/-- A part whose text can be mistaken neither for several parts nor for a missing one. -/
def Unmarked (part : Option Json) : Prop :=
  ∀ t, part.bind text? = some t → '\x1f' ∉ t.toList ∧ t ≠ nullKey

theorem bind_text?_eq_none_iff {part : Option Json} :
    part.bind text? = none ↔ isMissing part = true := by
  rcases part with _ | (_ | _ | _ | _ | _ | _ | _) <;> simp [text?, isMissing, Json.isNull]

theorem keyPart_of_missing {part : Option Json} (h : isMissing part = true) :
    keyPart part = nullKey := by
  rcases part with _ | (_ | _ | _ | _ | _ | _ | _) <;>
    first | rfl | simp [isMissing, Json.isNull] at h

theorem keyPart_of_text {part : Option Json} {t : String} (h : part.bind text? = some t) :
    keyPart part = t := by
  cases part with
  | none => cases h
  | some j =>
      change text? j = some t at h
      rw [keyPart, h, Option.getD_some]

theorem missing_or_text (part : Option Json) :
    isMissing part = true ∨ isMissing part = false ∧ ∃ t, part.bind text? = some t := by
  cases h : part.bind text? with
  | none => exact .inl (bind_text?_eq_none_iff.mp h)
  | some t =>
      refine .inr ⟨?_, t, rfl⟩
      rw [← Bool.not_eq_true, ← bind_text?_eq_none_iff, h]
      simp

theorem sameText_iff {a b : Option Json} :
    SameText a b ↔ keyPart a = keyPart b ∧ isMissing a = isMissing b := by
  rcases missing_or_text a with ha | ⟨ha, t, hat⟩ <;> rcases missing_or_text b with hb | ⟨hb, u, hbu⟩
  · simp [SameText, ha, hb, keyPart_of_missing]
  · simp [SameText, ha, hb, bind_text?_eq_none_iff.mpr ha]
  · simp [SameText, ha, hb, bind_text?_eq_none_iff.mpr hb]
  · simp [SameText, ha, hb, keyPart_of_text hat, keyPart_of_text hbu, hat, hbu, eq_comm]

theorem agree_iff {p q : List (Option Json)} :
    Agree p q ↔ p.map keyPart = q.map keyPart ∧ p.map isMissing = q.map isMissing := by
  induction p generalizing q with
  | nil => cases q <;> simp [Agree]
  | cons a p ih =>
      cases q with
      | nil => simp [Agree]
      | cons b q =>
          have hi : List.Forall₂ SameText p q ↔ _ := ih
          simp only [Agree, List.forall₂_cons, sameText_iff, hi, List.map_cons, List.cons.injEq]
          tauto

theorem groupKey_toList (parts : List (Option Json)) :
    (groupKey parts).toList = ['\x1f'].intercalate ((parts.map keyPart).map String.toList) :=
  String.toList_intercalate

theorem map_separators (parts : List (Option Json)) :
    parts.map separators = ((parts.map keyPart).map String.toList).map (List.count '\x1f') := by
  rw [List.map_map, List.map_map]
  rfl

theorem map_keyPart_eq_iff {p q : List (Option Json)} :
    p.map keyPart = q.map keyPart ↔
      groupKey p = groupKey q ∧ p.map separators = q.map separators := by
  constructor
  · intro h
    exact ⟨by rw [groupKey, groupKey, h], by rw [map_separators, map_separators, h]⟩
  · rintro ⟨hk, hs⟩
    have hl := congrArg String.toList hk
    rw [groupKey_toList, groupKey_toList] at hl
    rw [map_separators, map_separators] at hs
    exact List.map_injective_iff.mpr (fun _ _ => String.toList_injective) (intercalate_inj hs hl)

theorem agree_iff_groupKey {p q : List (Option Json)} :
    Agree p q ↔ groupKey p = groupKey q ∧ SameMarks p q := by
  rw [agree_iff, map_keyPart_eq_iff, SameMarks, and_assoc]

theorem separators_of_unmarked {part : Option Json} (h : Unmarked part) : separators part = 0 := by
  rw [separators, List.count_eq_zero]
  rcases missing_or_text part with hm | ⟨-, t, ht⟩
  · rw [keyPart_of_missing hm]
    decide
  · rw [keyPart_of_text ht]
    exact (h t ht).1

theorem isMissing_of_unmarked {part : Option Json} (h : Unmarked part) :
    isMissing part = decide (keyPart part = nullKey) := by
  rcases missing_or_text part with hm | ⟨hm, t, ht⟩
  · simp [hm, keyPart_of_missing hm]
  · simp [hm, keyPart_of_text ht, (h t ht).2]

theorem agree_iff_of_unmarked {p q : List (Option Json)} (hl : p.length = q.length)
    (h : ∀ part ∈ p ++ q, Unmarked part) : groupKey p = groupKey q ↔ Agree p q := by
  obtain ⟨hp, hq⟩ := List.forall_mem_append.mp h
  have hs {parts : List (Option Json)} (hu : ∀ part ∈ parts, Unmarked part) :
      parts.map separators = List.replicate parts.length 0 := by
    rw [List.map_congr_left fun part hm => separators_of_unmarked (hu part hm), List.map_const']
  have hm {parts : List (Option Json)} (hu : ∀ part ∈ parts, Unmarked part) :
      parts.map isMissing = (parts.map keyPart).map fun t => decide (t = nullKey) := by
    rw [List.map_congr_left fun part hm => isMissing_of_unmarked (hu part hm), List.map_map]
    rfl
  have hsep : p.map separators = q.map separators := by rw [hs hp, hs hq, hl]
  constructor
  · intro hk
    have hparts := map_keyPart_eq_iff.mpr ⟨hk, hsep⟩
    exact agree_iff.mpr ⟨hparts, by rw [hm hp, hm hq, hparts]⟩
  · intro ha
    exact (agree_iff_groupKey.mp ha).1

end Cell

open Cell

/-- Parts agree exactly if they have one key, equally many separators at each position and the same
positions missing; texts without separators that are not the stand-in for a missing part need no
more than the key. The same holds of the rows of one group and of those of one partition. -/
theorem grouping_keys_faithful_iff (groupBy : List GroupField) (w : WindowField)
    (rows : List Row) :
    (∀ p q : List (Option Json), Agree p q ↔ groupKey p = groupKey q ∧ SameMarks p q) ∧
      (∀ p q : List (Option Json), p.length = q.length → (∀ part ∈ p ++ q, Unmarked part) →
        (groupKey p = groupKey q ↔ Agree p q)) ∧
      (∀ groups, Group.ofRows? groupBy rows = some groups → ∀ r ∈ rows, ∀ s ∈ rows,
        ∃ kr ks, Group.keyValues? groupBy r = some kr ∧ Group.keyValues? groupBy s = some ks ∧
          (Agree (kr.map some) (ks.map some) ↔
            (∃ g ∈ groups, r ∈ g.members ∧ s ∈ g.members) ∧
              SameMarks (kr.map some) (ks.map some))) ∧
      ∀ a ∈ rows.zipIdx, ∀ b ∈ rows.zipIdx,
        (Agree (w.partitionColumns.map a.1.get?) (w.partitionColumns.map b.1.get?) ↔
          (∃ p ∈ w.partitions rows, a ∈ p ∧ b ∈ p) ∧
            SameMarks (w.partitionColumns.map a.1.get?) (w.partitionColumns.map b.1.get?)) := by
  refine ⟨fun p q => agree_iff_groupKey, fun p q => agree_iff_of_unmarked, ?_, ?_⟩
  · intro groups hg r hr s hs
    obtain ⟨kr, ks, hkr, hks, ht⟩ := Group.together_iff hg hr hs
    exact ⟨kr, ks, hkr, hks, by rw [agree_iff_groupKey, ht]⟩
  · intro a ha b hb
    rw [agree_iff_groupKey, w.together_iff ha hb]
    rfl

def countByPair : Query where
  join := []
  select := [.column "a", .column "b", .aggregate ⟨"*", .count, "n", none⟩]
  groupBy := [.plain "a", .plain "b"]
  filter := []
  having := []
  orderBy := []
  limit := none

def rankByFirst : WindowField := ⟨.rank, none, "r", ["a"], [], none, none⟩

def pairRow (a b : String) : Row := ⟨[("a", .str a), ("b", .str b)]⟩

theorem pairs_grouped :
    (∀ part ∈ [some (Json.str "x"), none] ++ [some (.str "x"), some (.str "")], Unmarked part) ∧
      groupKey [some (.str "x"), none] ≠ groupKey [some (.str "x"), some (.str "")] ∧
      (∃ groups,
        Group.ofRows? countByPair.groupBy [pairRow "x" "y", pairRow "x" "z"] = some groups ∧
          ¬∃ g ∈ groups, pairRow "x" "y" ∈ g.members ∧ pairRow "x" "z" ∈ g.members) ∧
      ∃ p ∈ rankByFirst.partitions [pairRow "x" "y", pairRow "x" "z"],
        (pairRow "x" "y", 0) ∈ p ∧ (pairRow "x" "z", 1) ∈ p := by
  have hu : ∀ part ∈ [some (Json.str "x"), none] ++ [some (.str "x"), some (.str "")],
      Unmarked part := by
    simp [Unmarked, text?, nullKey]
  obtain ⟨-, hkeys, hgroups, hpartitions⟩ := grouping_keys_faithful_iff countByPair.groupBy
    rankByFirst [pairRow "x" "y", pairRow "x" "z"]
  refine ⟨hu, ?_, ⟨_, rfl, ?_⟩, ?_⟩
  · rw [Ne, hkeys [some (.str "x"), none] [some (.str "x"), some (.str "")] rfl hu, agree_iff]
    decide
  · obtain ⟨kr, ks, hkr, hks, ha⟩ :=
      hgroups _ rfl (pairRow "x" "y") (by simp) (pairRow "x" "z") (by simp)
    obtain rfl := Option.some.inj hkr
    obtain rfl := Option.some.inj hks
    intro ht
    have hn := ha.mpr ⟨ht, rfl, rfl⟩
    rw [agree_iff] at hn
    exact absurd hn (by decide)
  · exact ((hpartitions (pairRow "x" "y", 0) (by simp) (pairRow "x" "z", 1) (by simp)).mp
      (agree_iff.mpr ⟨rfl, rfl⟩)).1

/-- A separator within a text merges different pairs into one group, and the text of the stand-in is
taken for a missing cell. -/
theorem countByPair_merges :
    (groupKey [some (.str "x\x1fy"), some (.str "z")] =
          groupKey [some (.str "x"), some (.str "y\x1fz")] ∧
        ¬Agree [some (.str "x\x1fy"), some (.str "z")] [some (.str "x"), some (.str "y\x1fz")]) ∧
      (groupKey [none] = groupKey [some (.str "\x00")] ∧ ¬Agree [none] [some (.str "\x00")]) ∧
      countByPair.aggregate? [pairRow "x\x1fy" "z", pairRow "x" "y\x1fz"] =
        some [⟨[("a", .str "x\x1fy"), ("b", .str "z"), ("n", .int 2)]⟩] := by
  refine ⟨⟨rfl, ?_⟩, ⟨rfl, ?_⟩, rfl⟩
  · rw [agree_iff]
    decide
  · rw [agree_iff]
    decide

end TableQuery
