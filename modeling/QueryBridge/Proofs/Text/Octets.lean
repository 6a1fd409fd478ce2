import QueryBridge.Text.Utf8

/-!
# Text survives its octets

The decoder takes a character from a first octet and those behind it, and then passes over as many
octets as the character has. There is one equation for each width, over the values of the octets
(`lead_of_one` to `lead_of_four`), and one for what the encoder writes for a character of that width
(`lead_octet` to `lead_four_octets`). So decoding undoes encoding (`decode_encode`). The equations
hold the other way round as well (`encode_one` to `encode_four`): octets that can be decoded are
those of the text that they give (`decode_eq_ok_iff`). Forgiving decoding never takes an ASCII octet
together with what stands in front of it, so it keeps all of them (`mem_decodeLossy`).
-/

set_option autoImplicit false

namespace QueryBridge.Text.Utf8

section Lead

variable {a b c d : UInt8} (rest : List UInt8)

theorem isTail_iff : isTail b = true ↔ 0x80 ≤ b.toNat ∧ b.toNat ≤ 0xBF := by
  simp [isTail, UInt8.le_iff_toNat_le]

theorem lead_of_one (h : a.toNat < 0x80) : lead a rest = .char (Char.ofNat a.toNat) 1 := by
  have hlow : a < 0x80 := UInt8.lt_iff_toNat_lt.2 h
  unfold lead
  rw [if_pos hlow]

/-- Two octets make a character if the second one goes on with it. -/
theorem lead_of_two (hlow : 0xC2 ≤ a.toNat) (hhigh : a.toNat ≤ 0xDF) (hb : isTail b = true) :
    lead a (b :: rest) = .char (charOfTwo a b) 2 := by
  have hone : ¬ a < 0x80 := by
    rw [UInt8.lt_iff_toNat_lt]
    exact Nat.not_lt.2 (Nat.le_trans (by decide) hlow)
  have htwo : (0xC2 ≤ a && a ≤ 0xDF) = true := by
    simpa [UInt8.le_iff_toNat_le] using ⟨hlow, hhigh⟩
  unfold lead
  rw [if_neg hone, if_pos htwo]
  simp only [hb, if_true]

theorem isSecondOfThree_of (hlow : a.toNat = 0xE0 → 0xA0 ≤ b.toNat)
    (hhigh : a.toNat = 0xED → b.toNat ≤ 0x9F) (hb : isTail b = true) :
    isSecondOfThree a b = true := by
  obtain ⟨hmin, hmax⟩ := isTail_iff.1 hb
  rw [isSecondOfThree]
  split
  · rename_i heq
    have hsecond := hlow (congrArg UInt8.toNat heq)
    simpa [UInt8.le_iff_toNat_le] using ⟨hsecond, hmax⟩
  · split
    · rename_i heq
      have hsecond := hhigh (congrArg UInt8.toNat heq)
      simpa [UInt8.le_iff_toNat_le] using ⟨hmin, hsecond⟩
    · exact hb

theorem isSecondOfFour_of (hlow : a.toNat = 0xF0 → 0x90 ≤ b.toNat)
    (hhigh : a.toNat = 0xF4 → b.toNat ≤ 0x8F) (hb : isTail b = true) :
    isSecondOfFour a b = true := by
  obtain ⟨hmin, hmax⟩ := isTail_iff.1 hb
  rw [isSecondOfFour]
  split
  · rename_i heq
    have hsecond := hlow (congrArg UInt8.toNat heq)
    simpa [UInt8.le_iff_toNat_le] using ⟨hsecond, hmax⟩
  · split
    · rename_i heq
      have hsecond := hhigh (congrArg UInt8.toNat heq)
      simpa [UInt8.le_iff_toNat_le] using ⟨hmin, hsecond⟩
    · exact hb

/-- Three octets make a character if the second one is neither too low nor a surrogate, and the
third one goes on. -/
theorem lead_of_three (hlow : 0xE0 ≤ a.toNat) (hhigh : a.toNat ≤ 0xEF)
    (hb : isSecondOfThree a b = true) (hc : isTail c = true) :
    lead a (b :: c :: rest) = .char (charOfThree a b c) 3 := by
  have hone : ¬ a < 0x80 := by
    rw [UInt8.lt_iff_toNat_lt]
    exact Nat.not_lt.2 (Nat.le_trans (by decide) hlow)
  have htwo : ¬ (0xC2 ≤ a && a ≤ 0xDF) = true := by
    simp only [Bool.and_eq_true, decide_eq_true_iff, UInt8.le_iff_toNat_le, not_and, Nat.not_le]
    exact fun _ => Nat.lt_of_lt_of_le (by decide) hlow
  have hthree : (0xE0 ≤ a && a ≤ 0xEF) = true := by
    simpa [UInt8.le_iff_toNat_le] using ⟨hlow, hhigh⟩
  unfold lead
  rw [if_neg hone, if_neg htwo, if_pos hthree]
  simp only [hb, hc, if_true]

/-- Four octets make a character if the second one is neither too low nor too high, and the others
go on. -/
theorem lead_of_four (hlow : 0xF0 ≤ a.toNat) (hhigh : a.toNat ≤ 0xF4)
    (hb : isSecondOfFour a b = true) (hc : isTail c = true) (hd : isTail d = true) :
    lead a (b :: c :: d :: rest) = .char (charOfFour a b c d) 4 := by
  have hone : ¬ a < 0x80 := by
    rw [UInt8.lt_iff_toNat_lt]
    exact Nat.not_lt.2 (Nat.le_trans (by decide) hlow)
  have htwo : ¬ (0xC2 ≤ a && a ≤ 0xDF) = true := by
    simp only [Bool.and_eq_true, decide_eq_true_iff, UInt8.le_iff_toNat_le, not_and, Nat.not_le]
    exact fun _ => Nat.lt_of_lt_of_le (by decide) hlow
  have hthree : ¬ (0xE0 ≤ a && a ≤ 0xEF) = true := by
    simp only [Bool.and_eq_true, decide_eq_true_iff, UInt8.le_iff_toNat_le, not_and, Nat.not_le]
    exact fun _ => Nat.lt_of_lt_of_le (by decide) hlow
  have hfour : (0xF0 ≤ a && a ≤ 0xF4) = true := by
    simpa [UInt8.le_iff_toNat_le] using ⟨hlow, hhigh⟩
  unfold lead
  rw [if_neg hone, if_neg htwo, if_neg hthree, if_pos hfour]
  simp only [hb, hc, hd, if_true]

end Lead

theorem toNat_octet {n : Nat} (h : n < 256) : (UInt8.ofNat n).toNat = n :=
  UInt8.toNat_ofNat_of_lt' h

theorem isTail_octet {n : Nat} : isTail (UInt8.ofNat (n % 0x40 + 0x80)) = true := by
  rw [isTail_iff, toNat_octet (by omega)]
  omega

section Octets

variable {c : Char} (rest : List UInt8)

theorem lead_octet (h : c.toNat < 0x80) : lead (UInt8.ofNat c.toNat) rest = .char c 1 := by
  have ha : (UInt8.ofNat c.toNat).toNat = c.toNat := toNat_octet (by omega)
  rw [lead_of_one rest (by omega), ha, Char.ofNat_toNat]

theorem lead_two_octets (hlow : 0x80 ≤ c.toNat) (hhigh : c.toNat ≤ 0x7FF) :
    lead (UInt8.ofNat (c.toNat / 64 % 0x20 + 0xc0))
      (UInt8.ofNat (c.toNat % 0x40 + 0x80) :: rest) = .char c 2 := by
  have ha : (UInt8.ofNat (c.toNat / 64 % 0x20 + 0xc0)).toNat = c.toNat / 64 % 0x20 + 0xc0 :=
    toNat_octet (by omega)
  have hb : (UInt8.ofNat (c.toNat % 0x40 + 0x80)).toNat = c.toNat % 0x40 + 0x80 :=
    toNat_octet (by omega)
  have hvalue : (c.toNat / 64 % 0x20 + 0xc0 - 0xC0) * 64 + (c.toNat % 0x40 + 0x80 - 0x80) =
      c.toNat := by omega
  rw [lead_of_two rest (by omega) (by omega) isTail_octet, charOfTwo, ha, hb, hvalue,
    Char.ofNat_toNat]

theorem lead_three_octets (hlow : 0x800 ≤ c.toNat) (hhigh : c.toNat ≤ 0xFFFF)
    (hvalid : c.toNat < 0xD800 ∨ 0xDFFF < c.toNat) :
    lead (UInt8.ofNat (c.toNat / 4096 % 0x10 + 0xe0))
      (UInt8.ofNat (c.toNat / 64 % 0x40 + 0x80) :: UInt8.ofNat (c.toNat % 0x40 + 0x80) :: rest) =
        .char c 3 := by
  have ha : (UInt8.ofNat (c.toNat / 4096 % 0x10 + 0xe0)).toNat = c.toNat / 4096 % 0x10 + 0xe0 :=
    toNat_octet (by omega)
  have hb : (UInt8.ofNat (c.toNat / 64 % 0x40 + 0x80)).toNat = c.toNat / 64 % 0x40 + 0x80 :=
    toNat_octet (by omega)
  have hc : (UInt8.ofNat (c.toNat % 0x40 + 0x80)).toNat = c.toNat % 0x40 + 0x80 :=
    toNat_octet (by omega)
  -- The second octet keeps clear of short forms and of surrogates.
  have hsecond := isSecondOfThree_of (a := UInt8.ofNat (c.toNat / 4096 % 0x10 + 0xe0))
    (b := UInt8.ofNat (c.toNat / 64 % 0x40 + 0x80)) (by omega) (by omega) isTail_octet
  have hvalue : (c.toNat / 4096 % 0x10 + 0xe0 - 0xE0) * 4096 +
      (c.toNat / 64 % 0x40 + 0x80 - 0x80) * 64 + (c.toNat % 0x40 + 0x80 - 0x80) =
      c.toNat := by omega
  rw [lead_of_three rest (by omega) (by omega) hsecond isTail_octet, charOfThree, ha, hb, hc,
    hvalue, Char.ofNat_toNat]

theorem lead_four_octets (hlow : 0x10000 ≤ c.toNat) (hhigh : c.toNat < 0x110000) :
    lead (UInt8.ofNat (c.toNat / 262144 % 0x08 + 0xf0))
      (UInt8.ofNat (c.toNat / 4096 % 0x40 + 0x80) :: UInt8.ofNat (c.toNat / 64 % 0x40 + 0x80) ::
        UInt8.ofNat (c.toNat % 0x40 + 0x80) :: rest) = .char c 4 := by
  have ha : (UInt8.ofNat (c.toNat / 262144 % 0x08 + 0xf0)).toNat = c.toNat / 262144 % 0x08 + 0xf0 :=
    toNat_octet (by omega)
  have hb : (UInt8.ofNat (c.toNat / 4096 % 0x40 + 0x80)).toNat = c.toNat / 4096 % 0x40 + 0x80 :=
    toNat_octet (by omega)
  have hc : (UInt8.ofNat (c.toNat / 64 % 0x40 + 0x80)).toNat = c.toNat / 64 % 0x40 + 0x80 :=
    toNat_octet (by omega)
  have hd : (UInt8.ofNat (c.toNat % 0x40 + 0x80)).toNat = c.toNat % 0x40 + 0x80 :=
    toNat_octet (by omega)
  have hsecond := isSecondOfFour_of (a := UInt8.ofNat (c.toNat / 262144 % 0x08 + 0xf0))
    (b := UInt8.ofNat (c.toNat / 4096 % 0x40 + 0x80)) (by omega) (by omega) isTail_octet
  have hvalue : (c.toNat / 262144 % 0x08 + 0xf0 - 0xF0) * 262144 +
      (c.toNat / 4096 % 0x40 + 0x80 - 0x80) * 4096 +
      (c.toNat / 64 % 0x40 + 0x80 - 0x80) * 64 + (c.toNat % 0x40 + 0x80 - 0x80) =
      c.toNat := by omega
  rw [lead_of_four rest (by omega) (by omega) hsecond isTail_octet isTail_octet, charOfFour, ha, hb,
    hc, hd, hvalue, Char.ofNat_toNat]

end Octets

/-- The octets of a character are read as this character. -/
theorem exists_octets (c : Char) :
    ∃ first others, String.utf8EncodeChar c = first :: others ∧
      ∀ rest, lead first (others ++ rest) = .char c (others.length + 1) := by
  have hvalid : c.toNat < 0xD800 ∨ (0xDFFF < c.toNat ∧ c.toNat < 0x110000) := c.valid
  have hval : c.val.toNat = c.toNat := rfl
  unfold String.utf8EncodeChar
  simp only [hval]
  split
  · exact ⟨_, [], rfl, fun rest => lead_octet rest (by omega)⟩
  · split
    · exact ⟨_, [_], rfl, fun rest => lead_two_octets rest (by omega) (by omega)⟩
    · split
      · exact ⟨_, [_, _], rfl, fun rest =>
          lead_three_octets rest (by omega) (by omega) (by omega)⟩
      · exact ⟨_, [_, _, _], rfl, fun rest => lead_four_octets rest (by omega) (by omega)⟩

/-- Octets of a character that is already read are passed over. -/
theorem decodeFrom_skip (index : Nat) (read : List Char) (others rest : List UInt8) :
    decodeFrom index others.length read (others ++ rest) =
      decodeFrom (index + others.length) 0 read rest := by
  induction others generalizing index with
  | nil => rfl
  | cons b others ih =>
      rw [List.length_cons, List.cons_append, decodeFrom, ih]
      congr 1
      omega

/-- The octets of a text are read back, whatever was read before them. -/
theorem decodeFrom_encode (index : Nat) (read s : List Char) :
    decodeFrom index 0 read (encode s) = .ok (read.reverse ++ s) := by
  induction s generalizing index read with
  | nil => exact congrArg Except.ok (List.append_nil _).symm
  | cons c s ih =>
      obtain ⟨first, others, hoctets, hlead⟩ := exists_octets c
      rw [encode, List.flatMap_cons, ← encode, hoctets, List.cons_append, decodeFrom, hlead]
      simp only [Nat.add_sub_cancel]
      rw [decodeFrom_skip, ih, List.reverse_cons, List.append_assoc]
      rfl

/-- Decoding undoes encoding. -/
theorem decode_encode (s : List Char) : decode (encode s) = .ok s :=
  decodeFrom_encode 0 [] s

/-! ## Well-formed octets spell one text -/

section Widths

variable {a b c d : UInt8}

theorem bounds_of_isSecondOfThree (h : isSecondOfThree a b = true) :
    (0x80 ≤ b.toNat ∧ b.toNat ≤ 0xBF) ∧ (a.toNat = 0xE0 → 0xA0 ≤ b.toNat) ∧
      (a.toNat = 0xED → b.toNat ≤ 0x9F) := by
  rw [isSecondOfThree] at h
  split at h
  · rename_i heq
    subst heq
    simp [UInt8.le_iff_toNat_le] at h ⊢
    omega
  · rename_i hfirst
    split at h
    · rename_i heq
      subst heq
      simp [UInt8.le_iff_toNat_le] at h ⊢
      omega
    · rename_i hlast
      have hne : a.toNat ≠ 0xE0 := fun hval => hfirst (UInt8.toNat_inj.1 hval)
      have hne' : a.toNat ≠ 0xED := fun hval => hlast (UInt8.toNat_inj.1 hval)
      exact ⟨isTail_iff.1 h, fun hval => absurd hval hne, fun hval => absurd hval hne'⟩

theorem bounds_of_isSecondOfFour (h : isSecondOfFour a b = true) :
    (0x80 ≤ b.toNat ∧ b.toNat ≤ 0xBF) ∧ (a.toNat = 0xF0 → 0x90 ≤ b.toNat) ∧
      (a.toNat = 0xF4 → b.toNat ≤ 0x8F) := by
  rw [isSecondOfFour] at h
  split at h
  · rename_i heq
    subst heq
    simp [UInt8.le_iff_toNat_le] at h ⊢
    omega
  · rename_i hfirst
    split at h
    · rename_i heq
      subst heq
      simp [UInt8.le_iff_toNat_le] at h ⊢
      omega
    · rename_i hlast
      have hne : a.toNat ≠ 0xF0 := fun hval => hfirst (UInt8.toNat_inj.1 hval)
      have hne' : a.toNat ≠ 0xF4 := fun hval => hlast (UInt8.toNat_inj.1 hval)
      exact ⟨isTail_iff.1 h, fun hval => absurd hval hne, fun hval => absurd hval hne'⟩

theorem octet_eq {n : Nat} (h : n = a.toNat) : UInt8.ofNat n = a := by
  subst h
  exact UInt8.ofNat_toNat

theorem toNat_ofNat {n : Nat} (h : n < 0xD800 ∨ (0xDFFF < n ∧ n < 0x110000)) :
    (Char.ofNat n).toNat = n := by
  have hvalid : n.isValidChar := h
  rw [Char.ofNat, dif_pos hvalid]
  rfl

theorem encode_one (h : a.toNat < 0x80) : String.utf8EncodeChar (Char.ofNat a.toNat) = [a] := by
  have hval : (Char.ofNat a.toNat).val.toNat = a.toNat := toNat_ofNat (by omega)
  unfold String.utf8EncodeChar
  simp only [hval]
  rw [if_pos (by omega), octet_eq rfl]

theorem encode_two (hlow : 0xC2 ≤ a.toNat) (hhigh : a.toNat ≤ 0xDF) (hb : isTail b = true) :
    String.utf8EncodeChar (charOfTwo a b) = [a, b] := by
  obtain ⟨hmin, hmax⟩ := isTail_iff.1 hb
  have hval : (charOfTwo a b).val.toNat = (a.toNat - 0xC0) * 64 + (b.toNat - 0x80) :=
    toNat_ofNat (by omega)
  unfold String.utf8EncodeChar
  simp only [hval]
  rw [if_neg (by omega), if_pos (by omega), octet_eq (a := a) (by omega),
    octet_eq (a := b) (by omega)]

theorem encode_three (hlow : 0xE0 ≤ a.toNat) (hhigh : a.toNat ≤ 0xEF)
    (hb : isSecondOfThree a b = true) (hc : isTail c = true) :
    String.utf8EncodeChar (charOfThree a b c) = [a, b, c] := by
  obtain ⟨⟨hbmin, hbmax⟩, hshort, hsurrogate⟩ := bounds_of_isSecondOfThree hb
  obtain ⟨hcmin, hcmax⟩ := isTail_iff.1 hc
  have hval : (charOfThree a b c).val.toNat =
      (a.toNat - 0xE0) * 4096 + (b.toNat - 0x80) * 64 + (c.toNat - 0x80) := by
    apply toNat_ofNat
    omega
  unfold String.utf8EncodeChar
  simp only [hval]
  rw [if_neg (by omega), if_neg (by omega), if_pos (by omega), octet_eq (a := a) (by omega),
    octet_eq (a := b) (by omega), octet_eq (a := c) (by omega)]

theorem encode_four (hlow : 0xF0 ≤ a.toNat) (hhigh : a.toNat ≤ 0xF4)
    (hb : isSecondOfFour a b = true) (hc : isTail c = true) (hd : isTail d = true) :
    String.utf8EncodeChar (charOfFour a b c d) = [a, b, c, d] := by
  obtain ⟨⟨hbmin, hbmax⟩, hshort, hlarge⟩ := bounds_of_isSecondOfFour hb
  obtain ⟨hcmin, hcmax⟩ := isTail_iff.1 hc
  obtain ⟨hdmin, hdmax⟩ := isTail_iff.1 hd
  have hval : (charOfFour a b c d).val.toNat = (a.toNat - 0xF0) * 262144 +
      (b.toNat - 0x80) * 4096 + (c.toNat - 0x80) * 64 + (d.toNat - 0x80) := by
    apply toNat_ofNat
    omega
  unfold String.utf8EncodeChar
  simp only [hval]
  rw [if_neg (by omega), if_neg (by omega), if_neg (by omega), octet_eq (a := a) (by omega),
    octet_eq (a := b) (by omega), octet_eq (a := c) (by omega), octet_eq (a := d) (by omega)]

end Widths

/-- A character that is read at the head of a text is written with the octets that were read. -/
theorem octets_of_lead {a : UInt8} {rest : List UInt8} {c : Char} {width : Nat}
    (h : lead a rest = .char c width) :
    ∃ others tail, rest = others ++ tail ∧ width = others.length + 1 ∧
      String.utf8EncodeChar c = a :: others := by
  -- The cases are those of the first octet: one, two, three or four octets make the character.
  unfold lead at h
  split at h
  · rename_i hone
    cases h
    exact ⟨[], rest, rfl, rfl, encode_one (UInt8.lt_iff_toNat_lt.1 hone)⟩
  split at h
  · rename_i hfirst
    simp only [Bool.and_eq_true, decide_eq_true_iff, UInt8.le_iff_toNat_le] at hfirst
    split at h
    · cases h
    · rename_i b tail
      split at h
      · rename_i hb
        obtain ⟨rfl, rfl⟩ := Lead.char.inj h
        exact ⟨[b], tail, rfl, rfl, encode_two hfirst.1 hfirst.2 hb⟩
      · cases h
  split at h
  · rename_i hfirst
    simp only [Bool.and_eq_true, decide_eq_true_iff, UInt8.le_iff_toNat_le] at hfirst
    split at h
    · cases h
    · rename_i b tail
      split at h
      · rename_i hb
        split at h
        · cases h
        · rename_i e tail
          split at h
          · rename_i hc
            obtain ⟨rfl, rfl⟩ := Lead.char.inj h
            exact ⟨[b, e], tail, rfl, rfl, encode_three hfirst.1 hfirst.2 hb hc⟩
          · cases h
      · cases h
  split at h
  · rename_i hfirst
    simp only [Bool.and_eq_true, decide_eq_true_iff, UInt8.le_iff_toNat_le] at hfirst
    split at h
    · cases h
    · rename_i b tail
      split at h
      · rename_i hb
        split at h
        · cases h
        · rename_i e tail
          split at h
          · rename_i hc
            split at h
            · cases h
            · rename_i f tail
              split at h
              · rename_i hd
                obtain ⟨rfl, rfl⟩ := Lead.char.inj h
                exact ⟨[b, e, f], tail, rfl, rfl, encode_four hfirst.1 hfirst.2 hb hc hd⟩
              · cases h
          · cases h
      · cases h
  · cases h

/-- Octets that can be read are those of the text that is read. -/
theorem octets_of_decodeFrom {octets : List UInt8} :
    ∀ {index : Nat} {read s : List Char}, decodeFrom index 0 read octets = .ok s →
      ∃ unread, s = read.reverse ++ unread ∧ octets = encode unread := by
  -- The induction is on the number of octets, since a character takes several of them at once.
  induction hlength : octets.length using Nat.strongRecOn generalizing octets with
  | ind n ih =>
    intro index read s h
    subst hlength
    cases octets with
    | nil =>
        cases h
        exact ⟨[], (List.append_nil _).symm, rfl⟩
    | cons a rest =>
        rw [decodeFrom] at h
        split at h
        · rename_i c width hlead
          obtain ⟨others, tail, rfl, rfl, hencode⟩ := octets_of_lead hlead
          rw [Nat.add_sub_cancel, decodeFrom_skip] at h
          have hshorter : tail.length < (a :: (others ++ tail)).length := by
            simp only [List.length_cons, List.length_append]
            omega
          obtain ⟨unread, rfl, rfl⟩ := ih _ hshorter rfl h
          refine ⟨c :: unread, ?_, ?_⟩
          · simp
          · have hcons : encode (c :: unread) = String.utf8EncodeChar c ++ encode unread := rfl
            rw [hcons, hencode]
            rfl
        · cases h
        · cases h

/-- A text is what octets spell exactly where these are the octets of the text. -/
theorem decode_eq_ok_iff {octets : List UInt8} {s : List Char} :
    decode octets = .ok s ↔ octets = encode s := by
  constructor
  · intro h
    obtain ⟨unread, rfl, hencode⟩ := octets_of_decodeFrom h
    exact hencode
  · rintro rfl
    exact decode_encode s

/-! ## Forgiving decoding keeps ASCII -/

/-- The number of octets behind the first one that a beginning takes. -/
def Lead.taken (rest : List UInt8) : Lead → Nat
  | .char _ width => width - 1
  | .broken length => length - 1
  | .cut => rest.length

/-- An octet that goes on with a character is none by itself. -/
theorem high_of_isTail {b : UInt8} (h : isTail b = true) : 0x80 ≤ b.toNat :=
  (isTail_iff.1 h).1

/-- No ASCII octet is taken together with the one in front of it. -/
theorem high_of_mem_taken (a : UInt8) (rest : List UInt8) :
    ∀ b ∈ rest.take ((lead a rest).taken rest), 0x80 ≤ b.toNat := by
  -- By the first octet again; what is taken with it was tested to go on with a character.
  unfold lead
  split
  · simp [Lead.taken]
  split
  · split
    · simp
    · split
      · rename_i hb
        simpa [Lead.taken] using high_of_isTail hb
      · simp [Lead.taken]
  split
  · split
    · simp
    · split
      · rename_i hb
        have hb := (bounds_of_isSecondOfThree hb).1.1
        split
        · simpa [Lead.taken] using hb
        · split
          · rename_i hc
            simpa [Lead.taken] using ⟨hb, high_of_isTail hc⟩
          · simpa [Lead.taken] using hb
      · simp [Lead.taken]
  split
  · split
    · simp
    · split
      · rename_i hb
        have hb := (bounds_of_isSecondOfFour hb).1.1
        split
        · simpa [Lead.taken] using hb
        · split
          · rename_i hc
            have hc := high_of_isTail hc
            split
            · simpa [Lead.taken] using ⟨hb, hc⟩
            · split
              · rename_i hd
                simpa [Lead.taken] using ⟨hb, hc, high_of_isTail hd⟩
              · simpa [Lead.taken] using ⟨hb, hc⟩
          · simpa [Lead.taken] using hb
      · simp [Lead.taken]
  · simp [Lead.taken]

theorem mem_decodeLossyFrom_of_read {c : Char} {octets : List UInt8} :
    ∀ {skip : Nat} {read : List Char}, c ∈ read → c ∈ decodeLossyFrom skip read octets := by
  induction octets with
  | nil =>
      intro skip read h
      exact List.mem_reverse.2 h
  | cons a rest ih =>
      intro skip read h
      cases skip with
      | succ skip => exact ih h
      | zero =>
          rw [decodeLossyFrom]
          cases lead a rest with
          | char d width => exact ih (List.mem_cons_of_mem d h)
          | broken length => exact ih (List.mem_cons_of_mem _ h)
          | cut => exact List.mem_reverse.2 (List.mem_cons_of_mem _ h)

/-- Octets of ASCII are read as they are, whatever stands in front of them. -/
theorem mem_decodeLossyFrom {b : UInt8} (hascii : b.toNat < 0x80) {octets : List UInt8} :
    ∀ {skip : Nat} {read : List Char}, b ∈ octets.drop skip →
      Char.ofNat b.toNat ∈ decodeLossyFrom skip read octets := by
  induction octets with
  | nil =>
      intro skip read h
      simp at h
  | cons a rest ih =>
      intro skip read h
      cases skip with
      | succ skip => exact ih h
      | zero =>
          rcases List.mem_cons.1 h with rfl | hrest
          · rw [decodeLossyFrom, lead_of_one rest hascii]
            exact mem_decodeLossyFrom_of_read List.mem_cons_self
          · -- The octet is not among those that go with `a`.
            have hlater : b ∈ rest.drop ((lead a rest).taken rest) := by
              rw [← List.take_append_drop ((lead a rest).taken rest) rest] at hrest
              rcases List.mem_append.1 hrest with htaken | hlater
              · exact absurd (high_of_mem_taken a rest b htaken) (by omega)
              · exact hlater
            rw [decodeLossyFrom]
            cases hlead : lead a rest with
            | char c width =>
                rw [hlead] at hlater
                exact ih hlater
            | broken length =>
                rw [hlead] at hlater
                exact ih hlater
            | cut =>
                rw [hlead, Lead.taken, List.drop_length] at hlater
                cases hlater

/-- A lossy reading keeps every octet below 80, whatever is around it. -/
theorem mem_decodeLossy {b : UInt8} (hascii : b.toNat < 0x80) {octets : List UInt8}
    (h : b ∈ octets) : Char.ofNat b.toNat ∈ decodeLossy octets :=
  mem_decodeLossyFrom hascii h

end QueryBridge.Text.Utf8
