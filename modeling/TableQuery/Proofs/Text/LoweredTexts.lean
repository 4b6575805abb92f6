import Mathlib
import TableQuery.Proofs.Text.Searches
import TableQuery.Text.Lowercase

namespace TableQuery.Text

def lowered (cs : List Char) : List Char := cs.flatMap lowerChar

@[simp]
theorem lowered_append (a b : List Char) : lowered (a ++ b) = lowered a ++ lowered b := by
  simp [lowered]

def usualSigma (c : Char) : Char := if c = 'ς' then 'σ' else c

theorem map_usualSigma_lowerFrom (before cs : List Char) :
    (lowerFrom before cs).map usualSigma = (lowered cs).map usualSigma := by
  induction cs generalizing before with
  | nil => rfl
  | cons c rest ih =>
      have hc : (if c = 'Σ' then if reachesCased before && !reachesCased rest then ['ς'] else ['σ']
          else lowerChar c).map usualSigma = (lowerChar c).map usualSigma := by
        split
        · next hs =>
            subst hs
            split <;> decide
        · rfl
      simp only [lowerFrom, lowered, List.map_append, List.flatMap_cons, hc]
      rw [ih, lowered]

/-- A part without sigmas does not see the difference. -/
theorem infix_map_usualSigma_iff {part cs : List Char} (hs : 'σ' ∉ part) (hf : 'ς' ∉ part) :
    part <:+: cs.map usualSigma ↔ part <:+: cs := by
  have hfix {l : List Char} (hl : 'ς' ∉ l) : l.map usualSigma = l := by
    calc l.map usualSigma = l.map id :=
          List.map_congr_left fun c hc => if_neg (ne_of_mem_of_not_mem hc hl)
      _ = l := List.map_id l
  constructor
  · intro h
    obtain ⟨l, hl, rfl⟩ := List.infix_map_iff.mp h
    have hn : 'ς' ∉ l := fun hm => hs (List.mem_map.mpr ⟨'ς', hm, rfl⟩)
    rwa [hfix hn]
  · intro h
    rw [← hfix hf]
    exact h.map usualSigma

theorem contains_lowercase_iff {s part : String} (hs : 'σ' ∉ part.toList)
    (hf : 'ς' ∉ part.toList) :
    contains (lowercase s) part = true ↔ part.toList <:+: lowered s.toList := by
  rw [contains_iff, lowercase, String.toList_ofList, ← infix_map_usualSigma_iff hs hf,
    map_usualSigma_lowerFrom, infix_map_usualSigma_iff hs hf]

theorem contains_lowercase_append {a b part : String} (hs : 'σ' ∉ part.toList)
    (hf : 'ς' ∉ part.toList)
    (h : contains (lowercase a) part = true ∨ contains (lowercase b) part = true) :
    contains (lowercase (a ++ b)) part = true := by
  simp only [contains_lowercase_iff hs hf, String.toList_append, lowered_append] at h ⊢
  rcases h with h | h
  · exact h.trans (List.prefix_append _ _).isInfix
  · exact h.trans (List.suffix_append _ _).isInfix

theorem contains_lowercase_framed {a b part : String} (name : String) (hs : 'σ' ∉ part.toList)
    (hf : 'ς' ∉ part.toList)
    (h : contains (lowercase a) part = true ∨ contains (lowercase b) part = true) :
    contains (lowercase (a ++ name ++ b)) part = true :=
  contains_lowercase_append hs hf
    (h.imp_left fun ha => contains_lowercase_append hs hf (.inl ha))

theorem run_bounds : ∀ r ∈ lowercaseRuns, 97 ≤ (r.first : Int) + r.distance ∧
    ((r.last : Int) + r.distance < 0xD800 ∨
      0xDFFF < (r.first : Int) + r.distance ∧ (r.last : Int) + r.distance < 0x110000) := by
  decide +kernel

theorem le_toNat_apply {r : Run} (hr : r ∈ lowercaseRuns) {c : Char} (hc : r.contains c = true) :
    97 ≤ (r.apply c).toNat := by
  obtain ⟨hlow, hvalid⟩ := run_bounds r hr
  obtain ⟨hfirst, hlast⟩ : r.first ≤ c.toNat ∧ c.toNat ≤ r.last := by
    simp only [Run.contains, inSpan, Bool.and_eq_true, decide_eq_true_eq] at hc
    exact hc.1
  have hv : (Int.ofNat c.toNat + r.distance).toNat.isValidChar := by
    unfold Nat.isValidChar
    simp only [Int.ofNat_eq_natCast]
    omega
  rw [Run.apply, Char.toNat_ofNat, if_pos hv]
  simp only [Int.ofNat_eq_natCast]
  omega

theorem toLower_eq_self {c : Char} (h : c.toLower.toNat < 97) : c.toLower = c := by
  by_cases hu : c.isUpper = true
  · -- a capital becomes a small letter
    have hc : 65 ≤ c.toNat ∧ c.toNat ≤ 90 := by
      simpa [Char.isUpper, UInt32.le_iff_toNat_le] using hu
    have hv : (c.toNat + 32).isValidChar := .inl (by omega)
    rw [Char.toLower_eq_of_isUpper hu, Char.toNat_ofNat, if_pos hv] at h
    omega
  · exact Char.toLower_eq_of_not_isUpper hu

theorem eq_of_mem_lowerChar {c d : Char} (hd : d.toNat < 97) (h : d ∈ lowerChar c) : c = d := by
  unfold lowerChar at h
  split at h
  · obtain rfl := List.mem_singleton.mp h
    exact (toLower_eq_self hd).symm
  · split at h
    · next hi =>
        rcases List.mem_cons.mp h with rfl | h
        · exact absurd hd (by decide)
        · obtain rfl := List.mem_singleton.mp h
          exact absurd hd (by decide)
    · obtain rfl := List.mem_singleton.mp h
      cases hi : Run.image? lowercaseRuns c with
      | none => rfl
      | some e =>
          obtain ⟨r, hr, rfl⟩ := Option.map_eq_some_iff.mp hi
          have hc : r.contains c = true := by simpa using List.find?_some hr
          have hle := le_toNat_apply (List.mem_of_find?_eq_some hr) hc
          rw [hi, Option.getD_some] at hd
          omega

theorem not_mem_lowered {d : Char} (hd : d.toNat < 97) {cs : List Char} (h : d ∉ cs) :
    d ∉ lowered cs := by
  intro hm
  obtain ⟨c, hc, hl⟩ := List.mem_flatMap.mp hm
  exact h (eq_of_mem_lowerChar hd hl ▸ hc)

end TableQuery.Text
