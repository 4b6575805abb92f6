import TableQuery.Proofs.Text.ByteOrder
import TableQuery.Text.Utf8

namespace TableQuery.Text.Utf8

/-- The forms of a character in front of some bytes, with its code point and its width. -/
inductive Spelled : List UInt8 → Nat → Nat → Prop
  | one {lead : UInt8} {n : Nat} (rest : List UInt8) (h : lead.toNat < 0x80)
      (hn : lead.toNat = n) : Spelled (lead :: rest) n 1
  | two {lead b : UInt8} {n : Nat} (rest : List UInt8)
      (h : 0xC2 ≤ lead.toNat ∧ lead.toNat ≤ 0xDF) (hb : isTail b = true)
      (hn : lead.toNat % 32 * 64 + b.toNat % 64 = n) : Spelled (lead :: b :: rest) n 2
  | three {lead b c : UInt8} {n : Nat} (rest : List UInt8)
      (h : 0xE0 ≤ lead.toNat ∧ lead.toNat ≤ 0xEF) (hb : isSecond lead b = true)
      (hc : isTail c = true)
      (hn : (lead.toNat % 16 * 64 + b.toNat % 64) * 64 + c.toNat % 64 = n) :
      Spelled (lead :: b :: c :: rest) n 3
  | four {lead b c d : UInt8} {n : Nat} (rest : List UInt8)
      (h : 0xF0 ≤ lead.toNat ∧ lead.toNat ≤ 0xF4) (hb : isSecond lead b = true)
      (hc : isTail c = true) (hd : isTail d = true)
      (hn : ((lead.toNat % 8 * 64 + b.toNat % 64) * 64 + c.toNat % 64) * 64 + d.toNat % 64 = n) :
      Spelled (lead :: b :: c :: d :: rest) n 4

section Pieces

variable {lead b : UInt8} {rest raw : List UInt8} {n width : Nat}

theorem isTail_iff : isTail b = true ↔ 0x80 ≤ b.toNat ∧ b.toNat ≤ 0xBF := by
  simp [isTail, UInt8.le_iff_toNat_le]

theorem isSecond_iff : isSecond lead b = true ↔ 0x80 ≤ b.toNat ∧ b.toNat ≤ 0xBF ∧
    (lead.toNat = 0xE0 → 0xA0 ≤ b.toNat) ∧ (lead.toNat = 0xED → b.toNat ≤ 0x9F) ∧
    (lead.toNat = 0xF0 → 0x90 ≤ b.toNat) ∧ (lead.toNat = 0xF4 → b.toNat ≤ 0x8F) := by
  simp only [isSecond, secondRange, ← UInt8.toNat_inj]
  split_ifs <;> simp [UInt8.le_iff_toNat_le] at * <;> omega

theorem Spelled.firstPiece_eq (h : Spelled (lead :: rest) n width) :
    firstPiece lead rest = .ofPayload n width := by
  cases h with
  | one rest h hn =>
      subst hn
      exact if_pos (UInt8.lt_iff_toNat_lt.mpr h)
  | two rest h hb hn =>
      subst hn
      have hone : ¬lead.toNat < 0x80 := by omega
      simp [firstPiece, UInt8.lt_iff_toNat_lt, UInt8.le_iff_toNat_le, hone, h, hb, payload]
  | three rest h hb hc hn =>
      subst hn
      have hone : ¬lead.toNat < 0x80 := by omega
      have htwo : ¬lead.toNat ≤ 0xDF := by omega
      simp [firstPiece, UInt8.lt_iff_toNat_lt, UInt8.le_iff_toNat_le, hone, htwo, h, hb, hc,
        payload]
  | four rest h hb hc hd hn =>
      subst hn
      have hone : ¬lead.toNat < 0x80 := by omega
      have htwo : ¬lead.toNat ≤ 0xDF := by omega
      have hthree : ¬lead.toNat ≤ 0xEF := by omega
      simp [firstPiece, UInt8.lt_iff_toNat_lt, UInt8.le_iff_toNat_le, hone, htwo, hthree, h, hb, hc,
        hd, payload]

theorem exists_spelled {c : Char} (h : (firstPiece lead rest).char? = some c) :
    ∃ n width, Spelled (lead :: rest) n width := by
  revert h
  fun_cases firstPiece lead rest with
  | case1 rest h => exact fun _ => ⟨_, _, .one rest (UInt8.lt_iff_toNat_lt.mp h) rfl⟩
  | case2 _ h b rest hb =>
      simp only [Bool.and_eq_true, decide_eq_true_eq, UInt8.le_iff_toNat_le] at h
      exact fun _ => ⟨_, _, .two rest h hb rfl⟩
  | case7 _ _ h b c rest hb hc =>
      simp only [Bool.and_eq_true, decide_eq_true_eq, UInt8.le_iff_toNat_le] at h
      exact fun _ => ⟨_, _, .three rest h (by simpa using hb) (by simpa using hc) rfl⟩
  | case13 _ _ _ h b c d rest hb hc hd =>
      simp only [Bool.and_eq_true, decide_eq_true_eq, UInt8.le_iff_toNat_le] at h
      exact fun _ =>
        ⟨_, _, .four rest h (by simpa using hb) (by simpa using hc) (by simpa using hd) rfl⟩
  -- The other pieces are unreadable.
  | _ => exact nofun

theorem Spelled.isValidChar (h : Spelled raw n width) : n.isValidChar := by
  rw [Nat.isValidChar]
  cases h with
  | one | two => omega
  | three _ _ hb | four _ _ hb =>
      rw [isSecond_iff] at hb
      omega

theorem Spelled.toNat_ofNat (h : Spelled raw n width) : (Char.ofNat n).val.toNat = n := by
  rw [Char.ofNat, dif_pos h.isValidChar]
  rfl

theorem Spelled.encoding_eq (h : Spelled raw n width) :
    String.utf8EncodeChar (Char.ofNat n) = raw.take width := by
  have hn := h.toNat_ofNat
  unfold String.utf8EncodeChar
  dsimp only
  rw [hn]
  cases h with
  | @one lead _ rest h hn =>
      rw [if_pos (by omega), ← hn, UInt8.ofNat_toNat]
      rfl
  | @two lead b _ rest h hb hn =>
      rw [isTail_iff] at hb
      have hlead : n / 64 % 0x20 + 0xC0 = lead.toNat := by omega
      have hb : n % 0x40 + 0x80 = b.toNat := by omega
      rw [if_neg (by omega), if_pos (by omega), hlead, hb, UInt8.ofNat_toNat, UInt8.ofNat_toNat]
      rfl
  | @three lead b c _ rest h hb hc hn =>
      rw [isSecond_iff] at hb
      rw [isTail_iff] at hc
      have hlead : n / 4096 % 0x10 + 0xE0 = lead.toNat := by omega
      have hb : n / 64 % 0x40 + 0x80 = b.toNat := by omega
      have hc : n % 0x40 + 0x80 = c.toNat := by omega
      rw [if_neg (by omega), if_neg (by omega), if_pos (by omega), hlead, hb, hc,
        UInt8.ofNat_toNat, UInt8.ofNat_toNat, UInt8.ofNat_toNat]
      rfl
  | @four lead b c d _ rest h hb hc hd hn =>
      rw [isSecond_iff] at hb
      rw [isTail_iff] at hc hd
      have hlead : n / 262144 % 0x08 + 0xF0 = lead.toNat := by omega
      have hb : n / 4096 % 0x40 + 0x80 = b.toNat := by omega
      have hc : n / 64 % 0x40 + 0x80 = c.toNat := by omega
      have hd : n % 0x40 + 0x80 = d.toNat := by omega
      rw [if_neg (by omega), if_neg (by omega), if_neg (by omega), hlead, hb, hc, hd,
        UInt8.ofNat_toNat, UInt8.ofNat_toNat, UInt8.ofNat_toNat, UInt8.ofNat_toNat]
      rfl

theorem spelled_encoding (c : Char) (rest : List UInt8) :
    Spelled (String.utf8EncodeChar c ++ rest) c.toNat (String.utf8EncodeChar c).length := by
  have hvalid : c.toNat.isValidChar := c.valid
  have hval : c.val.toNat = c.toNat := rfl
  rw [Nat.isValidChar] at hvalid
  unfold String.utf8EncodeChar
  dsimp only
  rw [hval]
  generalize c.toNat = n at hvalid
  split_ifs with hone htwo hthree
  · have hlead := UInt8.toNat_ofNat' (n := n)
    exact .one rest (by omega) (by omega)
  · have hlead := UInt8.toNat_ofNat' (n := n / 64 % 0x20 + 0xC0)
    have hb := UInt8.toNat_ofNat' (n := n % 0x40 + 0x80)
    exact .two rest (by omega) (isTail_iff.mpr (by omega)) (by omega)
  · have hlead := UInt8.toNat_ofNat' (n := n / 4096 % 0x10 + 0xE0)
    have hb := UInt8.toNat_ofNat' (n := n / 64 % 0x40 + 0x80)
    have hc := UInt8.toNat_ofNat' (n := n % 0x40 + 0x80)
    exact .three rest (by omega) (isSecond_iff.mpr (by omega)) (isTail_iff.mpr (by omega))
      (by omega)
  · have hlead := UInt8.toNat_ofNat' (n := n / 262144 % 0x08 + 0xF0)
    have hb := UInt8.toNat_ofNat' (n := n / 4096 % 0x40 + 0x80)
    have hc := UInt8.toNat_ofNat' (n := n / 64 % 0x40 + 0x80)
    have hd := UInt8.toNat_ofNat' (n := n % 0x40 + 0x80)
    exact .four rest (by omega) (isSecond_iff.mpr (by omega)) (isTail_iff.mpr (by omega))
      (isTail_iff.mpr (by omega)) (by omega)

theorem piecesFrom_eq (skip : Nat) (raw : List UInt8) :
    piecesFrom skip raw = pieces (raw.drop skip) := by
  induction raw generalizing skip with
  | nil => rw [List.drop_nil, pieces, piecesFrom, piecesFrom]
  | cons b rest ih =>
      cases skip with
      | zero => rfl
      | succ skip => exact ih skip

theorem pieces_encoding (c : Char) (rest : List UInt8) :
    pieces (String.utf8EncodeChar c ++ rest) =
      .ofPayload c.toNat (String.utf8EncodeChar c).length :: pieces rest := by
  have h := spelled_encoding c rest
  obtain ⟨lead, tail, he⟩ := List.exists_cons_of_ne_nil (String.utf8EncodeChar_ne_nil (c := c))
  rw [he, List.cons_append] at h ⊢
  rw [pieces, piecesFrom, h.firstPiece_eq, piecesFrom_eq]
  simp [Piece.ofPayload]

end Pieces

theorem decodeLossy_bytes (s : String) : decodeLossy (bytes s) = s := by
  have hchars (cs : List Char) : (pieces (cs.flatMap String.utf8EncodeChar)).map
      (fun p => p.char?.getD '\uFFFD') = cs := by
    induction cs with
    | nil => rfl
    | cons c cs ih =>
        rw [List.flatMap_cons, pieces_encoding, List.map_cons, ih, Piece.ofPayload,
          Option.getD_some, Char.ofNat_toNat]
  rw [decodeLossy, bytes_eq, hchars, String.ofList_toList]

theorem encode_piecesFrom {skip : Nat} {raw : List UInt8}
    (h : ∀ p ∈ piecesFrom skip raw, p.char?.isSome) :
    ((piecesFrom skip raw).map fun p => p.char?.getD '\uFFFD').flatMap String.utf8EncodeChar =
      raw.drop skip := by
  fun_induction piecesFrom skip raw with
  | case1 skip => simp
  | case2 skip b rest ih => exact ih h
  | case3 b rest ih =>
      obtain ⟨hfirst, hrest⟩ := List.forall_mem_cons.mp h
      obtain ⟨c, hc⟩ := Option.isSome_iff_exists.mp hfirst
      obtain ⟨n, width, hs⟩ := exists_spelled hc
      have hn : Char.ofNat n = c := by
        rw [hs.firstPiece_eq] at hc
        exact Option.some.inj hc
      have hwidth : (firstPiece b rest).width = width := by rw [hs.firstPiece_eq]; rfl
      have hpos : 0 < width := by cases hs <;> decide
      -- The character's bytes are those that the pieces after it skip.
      rw [List.map_cons, List.flatMap_cons, ih hrest, hc, Option.getD_some, ← hn, hs.encoding_eq,
        hwidth]
      obtain ⟨w, rfl⟩ := Nat.exists_eq_add_one.mpr hpos
      simp

theorem bytes_decodeLossy {raw : List UInt8} (h : '\uFFFD' ∉ (decodeLossy raw).toList) :
    bytes (decodeLossy raw) = raw := by
  rw [decodeLossy, String.toList_ofList] at h
  have hread : ∀ p ∈ piecesFrom 0 raw, p.char?.isSome := by
    intro p hp
    cases hc : p.char? with
    | none => exact absurd (List.mem_map.mpr ⟨p, hp, by rw [hc]; rfl⟩) h
    | some c => rfl
  rw [bytes_eq, decodeLossy, String.toList_ofList]
  exact encode_piecesFrom hread

end TableQuery.Text.Utf8
