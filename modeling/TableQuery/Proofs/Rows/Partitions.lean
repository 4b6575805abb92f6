import Mathlib.Data.List.Basic
import TableQuery.Rows.Window

namespace TableQuery

section Gather

variable {α : Type}

theorem mem_gather {keyed : List (String × α)} {key : String} {xs : List α} :
    (key, xs) ∈ gather keyed ↔
      key ∈ keyed.map Prod.fst ∧ xs = (keyed.filter fun x => x.1 = key).map Prod.snd := by
  simp only [gather, List.mem_map, List.mem_eraseDups, Prod.mk.injEq]
  constructor
  · rintro ⟨k, hk, rfl, rfl⟩
    exact ⟨hk, rfl⟩
  · rintro ⟨hk, rfl⟩
    exact ⟨key, hk, rfl, rfl⟩

theorem mem_of_mem_gather {keyed : List (String × α)} {g : String × List α}
    (hg : g ∈ gather keyed) {a : α} (ha : a ∈ g.2) : (g.1, a) ∈ keyed := by
  obtain ⟨key, members⟩ := g
  obtain ⟨-, rfl⟩ := mem_gather.mp hg
  simpa using ha

/-- Elements keyed by a function of their own stand together exactly if it takes them to one key. -/
theorem gathered_together_iff (key : α → String) {xs : List α} {a b : α} (ha : a ∈ xs)
    (hb : b ∈ xs) :
    (∃ g ∈ gather (xs.map fun x => (key x, x)), a ∈ g.2 ∧ b ∈ g.2) ↔ key a = key b := by
  constructor
  · rintro ⟨g, hg, hga, hgb⟩
    obtain ⟨x, -, hx⟩ := List.mem_map.mp (mem_of_mem_gather hg hga)
    obtain ⟨y, -, hy⟩ := List.mem_map.mp (mem_of_mem_gather hg hgb)
    obtain ⟨hxk, rfl⟩ := Prod.mk.inj hx
    obtain ⟨hyk, rfl⟩ := Prod.mk.inj hy
    exact hxk.trans hyk.symm
  · intro h
    refine ⟨(key a, _), mem_gather.mpr ⟨?_, rfl⟩, ?_, ?_⟩
    · simp only [List.map_map, List.mem_map]
      exact ⟨a, ha, rfl⟩
    · simp [ha]
    · simp [hb, h]

end Gather

section MapM

variable {α β : Type} {f : α → Option β} {xs : List α}

theorem mapM_cons_of_eq_some {x : α} {y : β} (h : f x = some y) :
    (x :: xs).mapM f = (xs.mapM f).map (y :: ·) := by
  rw [List.mapM_cons, h]
  cases xs.mapM f <;> rfl

theorem mapM_cons_of_eq_none {x : α} (h : f x = none) : (x :: xs).mapM f = none := by
  rw [List.mapM_cons, h]
  rfl

theorem mapM_eq_some_iff {ys : List β} : xs.mapM f = some ys ↔ xs.map f = ys.map some := by
  induction xs generalizing ys with
  | nil => cases ys <;> simp
  | cons x xs ih =>
      cases hx : f x with
      | none => cases ys <;> simp [mapM_cons_of_eq_none hx, hx]
      | some y =>
          rw [mapM_cons_of_eq_some hx, Option.map_eq_some_iff]
          cases ys with
          | nil => simp
          | cons z zs => simp [ih, hx, eq_comm, and_comm]

theorem mapM_eq_none_iff : xs.mapM f = none ↔ ∃ x ∈ xs, f x = none := by
  induction xs with
  | nil => simp
  | cons x xs ih =>
      cases hx : f x with
      | none => simp [mapM_cons_of_eq_none hx, hx]
      | some y => simp [mapM_cons_of_eq_some hx, hx, ih]

end MapM

namespace Group

variable {groupBy : List GroupField} {rows : List Row}

theorem mem_members_ofMembers {ms : List (List Json × Row)} {r : Row} :
    r ∈ (ofMembers ms).members ↔ ∃ keys, (keys, r) ∈ ms := by
  have hm : (ofMembers ms).members = ms.map Prod.snd := by cases ms <;> rfl
  simp [hm]

section Keyed

variable {keyed : List (List Json × Row)}
  (hk : (rows.mapM fun r => (keyValues? groupBy r).map fun keys => (keys, r)) = some keyed)

include hk

theorem mem_keyed_iff {keys : List Json} {r : Row} :
    (keys, r) ∈ keyed ↔ r ∈ rows ∧ keyValues? groupBy r = some keys := by
  have hs : (keys, r) ∈ keyed ↔ some (keys, r) ∈ keyed.map some := by simp
  rw [hs, ← mapM_eq_some_iff.mp hk, List.mem_map]
  constructor
  · rintro ⟨x, hx, he⟩
    obtain ⟨k, hkx, he⟩ := Option.map_eq_some_iff.mp he
    obtain ⟨rfl, rfl⟩ := Prod.mk.inj he
    exact ⟨hx, hkx⟩
  · rintro ⟨hr, hkr⟩
    exact ⟨r, hr, by rw [hkr, Option.map_some]⟩

theorem exists_keyValues {r : Row} (hr : r ∈ rows) : ∃ keys, keyValues? groupBy r = some keys := by
  have hm : (keyValues? groupBy r).map (fun keys => (keys, r)) ∈ keyed.map some := by
    rw [← mapM_eq_some_iff.mp hk]
    exact List.mem_map_of_mem hr
  obtain ⟨_, -, he⟩ := List.mem_map.mp hm
  obtain ⟨keys, hkr, -⟩ := Option.map_eq_some_iff.mp he.symm
  exact ⟨keys, hkr⟩

end Keyed

theorem together_iff {groups : List Group} (h : ofRows? groupBy rows = some groups) {r s : Row}
    (hr : r ∈ rows) (hs : s ∈ rows) :
    ∃ kr ks, keyValues? groupBy r = some kr ∧ keyValues? groupBy s = some ks ∧
      ((∃ g ∈ groups, r ∈ g.members ∧ s ∈ g.members) ↔
        Cell.groupKey (kr.map some) = Cell.groupKey (ks.map some)) := by
  by_cases he : groupBy.isEmpty
  · obtain rfl := List.isEmpty_iff.mp he
    obtain rfl : [⟨[], rows⟩] = groups := by simpa [ofRows?] using h
    exact ⟨[], [], rfl, rfl, by simp [hr, hs]⟩
  · obtain ⟨keyed, hk, rfl⟩ := Option.map_eq_some_iff.mp ((if_neg he).symm.trans h)
    obtain ⟨kr, hkr⟩ := exists_keyValues hk hr
    obtain ⟨ks, hks⟩ := exists_keyValues hk hs
    have hone {g : String × List (List Json × Row)}
        (hg : g ∈ gather (keyed.map fun x => (Cell.groupKey (x.1.map some), x)))
        {x : Row} {kx : List Json} (hkx : keyValues? groupBy x = some kx) :
        x ∈ (ofMembers g.2).members ↔ (kx, x) ∈ g.2 := by
      rw [mem_members_ofMembers]
      refine ⟨fun ⟨k, hm⟩ => ?_, fun hm => ⟨kx, hm⟩⟩
      obtain ⟨y, hy, he⟩ := List.mem_map.mp (mem_of_mem_gather hg hm)
      obtain ⟨-, rfl⟩ := Prod.mk.inj he
      obtain ⟨-, hkx'⟩ := (mem_keyed_iff hk).mp hy
      obtain rfl := Option.some.inj (hkx.symm.trans hkx')
      exact hm
    refine ⟨kr, ks, hkr, hks, ?_⟩
    rw [← gathered_together_iff (fun x : List Json × Row => Cell.groupKey (x.1.map some))
      ((mem_keyed_iff hk).mpr ⟨hr, hkr⟩) ((mem_keyed_iff hk).mpr ⟨hs, hks⟩)]
    constructor
    · rintro ⟨_, hm, hgr, hgs⟩
      obtain ⟨g, hg, rfl⟩ := List.mem_map.mp hm
      exact ⟨g, hg, (hone hg hkr).mp hgr, (hone hg hks).mp hgs⟩
    · rintro ⟨g, hg, hgr, hgs⟩
      exact ⟨_, List.mem_map_of_mem hg, (hone hg hkr).mpr hgr, (hone hg hks).mpr hgs⟩

end Group

namespace WindowField

theorem together_iff (w : WindowField) {rows : List Row} {a b : Placed} (ha : a ∈ rows.zipIdx)
    (hb : b ∈ rows.zipIdx) :
    (∃ p ∈ w.partitions rows, a ∈ p ∧ b ∈ p) ↔ w.partitionKey a.1 = w.partitionKey b.1 := by
  rw [← gathered_together_iff (fun p : Placed => w.partitionKey p.1) ha hb]
  constructor
  · rintro ⟨_, hp, hpa, hpb⟩
    obtain ⟨g, hg, rfl⟩ := List.mem_map.mp hp
    exact ⟨g, hg, hpa, hpb⟩
  · rintro ⟨g, hg, hga, hgb⟩
    exact ⟨g.2, List.mem_map_of_mem hg, hga, hgb⟩

end WindowField
end TableQuery
