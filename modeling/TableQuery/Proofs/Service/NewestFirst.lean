import TableQuery.Proofs.Calendar.StampOrder
import TableQuery.Proofs.Service.DefinitionMap

namespace TableQuery

open Calendar

namespace Registry

variable {r : Registry}

/-- All definitions that are stored are from the years 0 to 9999. -/
def Stamped (r : Registry) : Prop :=
  ∀ e ∈ r.entries, ∃ d : SourceDefinition, d.createdAt.Shown ∧ e = (d.id, storedForm d)

theorem stamped_empty : Stamped Catalog.empty := nofun

theorem Stamped.save (h : r.Stamped) {d : SourceDefinition} (hd : d.createdAt.Shown) :
    (r.save d).Stamped := by
  intro e he
  rcases List.mem_append.mp he with he | he
  · exact h e (List.mem_filter.mp he).1
  · exact ⟨d, hd, List.mem_singleton.mp he⟩

theorem Stamped.erase (h : r.Stamped) (id : String) : Stamped (Catalog.erase r id) :=
  fun e he => h e (List.mem_filter.mp he).1

theorem isLater_iff {a b : String × StoredDefinition} :
    isLater a b = true ↔ b.2.createdAt ≤ a.2.createdAt := by
  rw [isLater, Bool.not_eq_true', decide_eq_false_iff_not, not_lt]

theorem pairwise_mergeSort_isLater (entries : List (String × StoredDefinition)) :
    (entries.mergeSort isLater).Pairwise fun a b => b.2.createdAt ≤ a.2.createdAt := by
  have htrans (a b c : String × StoredDefinition) (hab : isLater a b) (hbc : isLater b c) :
      isLater a c :=
    isLater_iff.mpr ((isLater_iff.mp hbc).trans (isLater_iff.mp hab))
  have htotal (a b : String × StoredDefinition) : isLater a b || isLater b a := by
    rw [Bool.or_eq_true, isLater_iff, isLater_iff]
    exact le_total _ _
  exact (List.pairwise_mergeSort htrans htotal entries).imp isLater_iff.mp

theorem Stamped.pairwise_list (h : r.Stamped) {ds : List SourceDefinition}
    (hds : r.list = .ok ds) :
    ds.Pairwise fun d e => e.createdAt.moment ≤ d.createdAt.moment := by
  have hread (e) (he : e ∈ r.entries.mergeSort isLater) (d) (hd : definitionOf e.1 e.2 = .ok d) :
      d.createdAt.Shown ∧ e.2.createdAt = d.createdAt.stamp := by
    obtain ⟨d', hd', rfl⟩ := h e (List.mem_mergeSort.mp he)
    rw [definitionOf_storedForm hd'] at hd
    obtain rfl := Except.ok.inj hd
    exact ⟨hd', rfl⟩
  have hmap := map_of_mapM_eq_ok hds
  -- The order of the stored stamps is that of the definitions that are read.
  have hpairs : (ds.map Except.ok).Pairwise
      fun x y : Except Failure SourceDefinition => ∀ d e, x = .ok d → y = .ok e →
        e.createdAt.moment ≤ d.createdAt.moment := by
    rw [← hmap, List.pairwise_map]
    refine (pairwise_mergeSort_isLater r.entries).imp_of_mem fun ha hb hle d e hd he => ?_
    obtain ⟨hshown, hstamp⟩ := hread _ ha d hd
    obtain ⟨hshown', hstamp'⟩ := hread _ hb e he
    rw [hstamp, hstamp'] at hle
    exact not_lt.mp fun hlt => not_lt.mpr hle ((Instant.stamp_lt_stamp_iff hshown hshown').mpr hlt)
  exact (List.pairwise_map.mp hpairs).imp fun hpair => hpair _ _ rfl rfl

end Registry

inductive Change
  | save (d : SourceDefinition)
  | erase (id : String)

def Registry.after (r : Registry) : Change → Registry
  | .save d => r.save d
  | .erase id => Catalog.erase r id

namespace Definitions

def after (m : Definitions) : Change → Definitions
  | .save d => Function.update m d.id (some d)
  | .erase id => Function.update m id none

/-- The registry holds the definitions of the map and can read all of their stamps back. -/
structure Kept (m : Definitions) (r : Registry) : Prop where
  registered : m.Registered r
  stamped : r.Stamped

theorem kept_empty : Kept (fun _ => none) Catalog.empty where
  registered := ⟨fun _ => rfl, Catalog.distinct_empty⟩
  stamped := Registry.stamped_empty

variable {m : Definitions} {r : Registry}

theorem Kept.after (h : m.Kept r) (c : Change)
    (hshown : ∀ d, c = .save d → d.createdAt.Shown) : (m.after c).Kept (r.after c) := by
  cases c with
  | save d =>
      have hd := hshown d rfl
      exact ⟨h.registered.save hd, h.stamped.save hd⟩
  | erase id => exact ⟨h.registered.erase id, h.stamped.erase id⟩

theorem Kept.run (h : m.Kept r) (changes : List Change)
    (hshown : ∀ d, .save d ∈ changes → d.createdAt.Shown) :
    (changes.foldl Definitions.after m).Kept (changes.foldl Registry.after r) := by
  induction changes generalizing m r with
  | nil => exact h
  | cons c changes ih =>
      refine ih (h.after c ?_) fun d hd => hshown d (List.mem_cons_of_mem c hd)
      rintro d rfl
      exact hshown d List.mem_cons_self

end Definitions

theorem SourceKind.ofName_name (kind : SourceKind) : SourceKind.ofName kind.name = .ok kind := by
  cases kind <;> decide +kernel

/-- Whatever was saved and deleted, the registry lists each definition once and as it was saved, the
latest first: however many digits their fractions have, the stamps stand byte by byte as the
instants follow each other. -/
theorem newest_listed_first (changes : List Change)
    (hshown : ∀ d, .save d ∈ changes → d.createdAt.Shown) :
    (∀ kind : SourceKind, SourceKind.ofName kind.name = .ok kind) ∧
    (∀ i : Instant, i.Shown →
      ∃ seconds fraction, Instant.StampForm i.stamp.toList seconds fraction) ∧
    (∀ i j : Instant, i.Shown → j.Shown →
      (Text.bytes i.stamp < Text.bytes j.stamp ↔ i.moment < j.moment)) ∧
    ∃ ds, (changes.foldl Registry.after Catalog.empty).list = .ok ds ∧
      (changes.foldl Definitions.after fun _ => none).Lists ds ∧
      ds.Pairwise fun d e => e.createdAt.moment ≤ d.createdAt.moment := by
  refine ⟨SourceKind.ofName_name, fun _ => Instant.exists_stampForm, fun i j hi hj => ?_, ?_⟩
  · rw [Text.bytes_lt_iff, Instant.stamp_lt_stamp_iff hi hj]
  · have hkept := Definitions.kept_empty.run changes hshown
    obtain ⟨ds, hds, hlists⟩ := hkept.registered.list
    exact ⟨ds, hds, hlists, hkept.stamped.pairwise_list hds⟩

def newYears : List Instant :=
  [⟨⟨2017, 1, 1⟩, ⟨0, 1000000⟩⟩, ⟨⟨2016, 12, 31⟩, ⟨86399, 1500000000⟩⟩, ⟨⟨2017, 1, 1⟩, ⟨0, 0⟩⟩,
    ⟨⟨2017, 1, 1⟩, ⟨0, 1⟩⟩]

theorem shown_of_mem_newYears {i : Instant} (h : i ∈ newYears) : i.Shown := by
  simp only [newYears, List.mem_cons, List.not_mem_nil, or_false] at h
  obtain rfl | rfl | rfl | rfl := h <;>
    exact ⟨⟨by decide, by decide, by decide, by decide⟩, by decide, by decide, by decide,
      by decide⟩

theorem new_years_listed_first :
    let definition i := SourceDefinition.mk (Instant.stamp i) "Sales" .sqlite "sales.db" i
    let changes := newYears.map (Change.save ∘ definition)
    (∀ d, .save d ∈ changes → d.createdAt.Shown) ∧
      (changes.foldl Registry.after Catalog.empty).entries.map (fun e => e.2.createdAt) =
        ["2017-01-01T00:00:00.001+00:00", "2016-12-31T23:59:60.500+00:00",
          "2017-01-01T00:00:00+00:00", "2017-01-01T00:00:00.000000001+00:00"] ∧
      ∃ ds, (changes.foldl Registry.after Catalog.empty).list = .ok ds ∧
        (changes.foldl Definitions.after fun _ => none).Lists ds ∧
        ds.Pairwise fun d e => e.createdAt.moment ≤ d.createdAt.moment := by
  intro definition changes
  have hshown : ∀ d, .save d ∈ changes → d.createdAt.Shown := by
    intro d hd
    obtain ⟨i, hi, heq⟩ := List.mem_map.mp hd
    obtain rfl := Change.save.inj heq
    exact shown_of_mem_newYears hi
  exact ⟨hshown, by decide +kernel, (newest_listed_first changes hshown).2.2.2⟩

end TableQuery
