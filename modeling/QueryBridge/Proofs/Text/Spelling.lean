import Mathlib.Data.List.TakeWhile
import QueryBridge.Text.Numeral

/-!
# White space around a text, and numbers as texts

A run of characters ends where another one stands (`span_append`), and a text falls into pieces at
each separator in it (`splitAll_append_cons`). Trimming takes white space away on either side and
nothing else (`exists_trim`, `trimmed_trim`, `trim_eq_self_iff`). A number is
spelled by decimal digits with one optional plus sign in front (`Spells`); what is read as a 64-bit
word is exactly what spells one (`parseWord?_eq_some_iff`), and the digits that the program writes
spell the number that they were written for (`spells_decimal`).
-/

set_option autoImplicit false

namespace QueryBridge.Text

/-! ## Runs -/

/-- A run of characters ends where the first other character stands, or with the text. -/
theorem span_append {p : Char → Bool} {run rest : List Char} (hrun : ∀ c ∈ run, p c = true)
    (hrest : ∀ c ∈ rest.head?, p c = false) :
    (run ++ rest).takeWhile p = run ∧ (run ++ rest).dropWhile p = rest := by
  rw [List.takeWhile_append_of_pos hrun, List.dropWhile_append_of_pos hrun]
  cases rest with
  | nil => exact ⟨List.append_nil run, rfl⟩
  | cons c rest =>
      have hc : ¬ p c = true := by simpa using hrest c rfl
      rw [List.takeWhile_cons_of_neg hc, List.dropWhile_cons_of_neg hc]
      exact ⟨List.append_nil run, rfl⟩

/-! ## Pieces -/

section Pieces

variable {isSeparator : Char → Bool}

/-- Text splits at a separator into what is in front of it and what is behind. -/
theorem splitFrom_append_cons {separator : Char} (h : isSeparator separator = true)
    (piece front behind : List Char) :
    splitFrom isSeparator piece (front ++ separator :: behind) =
      splitFrom isSeparator piece front ++ splitAll isSeparator behind := by
  induction front generalizing piece with
  | nil => simp only [List.nil_append, splitFrom, h, if_true, splitAll, List.singleton_append]
  | cons c rest ih =>
      rw [List.cons_append, splitFrom, splitFrom]
      split
      · rw [ih, List.cons_append]
      · exact ih (c :: piece)

/-- A text falls into the pieces in front of a separator and those behind it. -/
theorem splitAll_append_cons {separator : Char} (h : isSeparator separator = true)
    (front behind : List Char) :
    splitAll isSeparator (front ++ separator :: behind) =
      splitAll isSeparator front ++ splitAll isSeparator behind :=
  splitFrom_append_cons h [] front behind

theorem splitFrom_of_none {s : List Char} (h : ∀ c ∈ s, isSeparator c = false) (piece : List Char) :
    splitFrom isSeparator piece s = [piece.reverse ++ s] := by
  induction s generalizing piece with
  | nil => rw [splitFrom, List.append_nil]
  | cons c rest ih =>
      have hc : ¬ isSeparator c = true := by simpa using h c List.mem_cons_self
      have hrest : ∀ d ∈ rest, isSeparator d = false := fun d hd => h d (List.mem_cons_of_mem c hd)
      rw [splitFrom, if_neg hc, ih hrest, List.reverse_cons, List.append_assoc,
        List.singleton_append]

/-- A text without separators is one piece. -/
theorem splitAll_of_none {s : List Char} (h : ∀ c ∈ s, isSeparator c = false) :
    splitAll isSeparator s = [s] :=
  splitFrom_of_none h []

end Pieces

/-! ## White space -/

section Trim

variable {s b : List Char}

theorem isBlank_iff : isBlank b = true ↔ ∀ c ∈ b, isSpace c = true :=
  List.all_eq_true

/-- A text without white space, checked character by character. -/
theorem not_isSpace_of_all (h : s.all (!isSpace ·) = true) : ∀ c ∈ s, isSpace c = false :=
  fun c hc => by simpa using List.all_eq_true.1 h c hc

theorem isSpace_of_mem_head? {c : Char} (h : isSpace c = true) :
    ∀ d ∈ (c :: s).head?, isSpace d = true :=
  fun _ hd => Option.some_inj.1 hd ▸ h

theorem isBlank_append (s b : List Char) : isBlank (s ++ b) = (isBlank s && isBlank b) :=
  List.all_append

theorem trimStart_of_isBlank_append (h : isBlank b = true) : trimStart (b ++ s) = trimStart s :=
  List.dropWhile_append_of_pos (isBlank_iff.1 h)

theorem trimEnd_append_of_isBlank (h : isBlank b = true) : trimEnd (s ++ b) = trimEnd s := by
  have hback : ∀ c ∈ b.reverse, isSpace c = true :=
    fun c hc => isBlank_iff.1 h c (List.mem_reverse.1 hc)
  rw [trimEnd, List.reverse_append, List.dropWhile_append_of_pos hback, trimEnd]

/-- White space in front of a text counts for nothing. -/
theorem trim_of_isBlank_append (h : isBlank b = true) : trim (b ++ s) = trim s := by
  rw [trim, trimStart_of_isBlank_append h, trim]

/-- White space behind a text counts for nothing. -/
theorem trim_append_of_isBlank (h : isBlank b = true) : trim (s ++ b) = trim s := by
  rw [trim, trimStart, List.dropWhile_append]
  split
  · -- The text itself is white space, so nothing is left of either.
    rename_i hs
    have hnone : s.dropWhile isSpace = [] := List.isEmpty_iff.1 hs
    have hblank : b.dropWhile isSpace = [] := List.dropWhile_eq_nil_iff.2 (isBlank_iff.1 h)
    rw [hblank, trim, trimStart, hnone]
  · exact trimEnd_append_of_isBlank h

/-- A text that neither begins nor ends with white space. -/
def Trimmed (s : List Char) : Prop :=
  (∀ c ∈ s.head?, isSpace c = false) ∧ ∀ c ∈ s.getLast?, isSpace c = false

/-- A text without white space at its ends is left alone. -/
theorem Trimmed.trim_eq (h : Trimmed s) : trim s = s := by
  obtain ⟨hfirst, hlast⟩ := h
  have hstart : trimStart s = s := by
    cases s with
    | nil => rfl
    | cons c rest => exact List.dropWhile_cons_of_neg (by simp [hfirst c rfl])
  rw [trim, hstart]
  rcases List.eq_nil_or_concat s with rfl | ⟨front, d, rfl⟩
  · rfl
  · rw [List.concat_eq_append] at hlast ⊢
    have hd : ¬ isSpace d = true := by simp [hlast d (by rw [List.getLast?_concat]; rfl)]
    rw [trimEnd, List.reverse_append, List.reverse_singleton, List.singleton_append,
      List.dropWhile_cons_of_neg hd, List.reverse_cons, List.reverse_reverse]

/-- White space around trimmed text is all that is trimmed. -/
theorem Trimmed.trim_between {before after : List Char} (h : Trimmed s)
    (hbefore : isBlank before = true) (hafter : isBlank after = true) :
    trim (before ++ s ++ after) = s := by
  rw [trim_append_of_isBlank hafter, trim_of_isBlank_append hbefore, h.trim_eq]

/-- A text ends as the part of it does that stands last. -/
theorem trimmed_cons_append {c : Char} (hc : isSpace c = false) (s : List Char) (hne : b ≠ [])
    (hb : Trimmed b) : Trimmed (c :: (s ++ b)) := by
  constructor
  · intro d hd
    cases hd
    exact hc
  · obtain ⟨front, d, rfl⟩ := (List.eq_nil_or_concat b).resolve_left hne
    rw [List.concat_eq_append] at hb ⊢
    rw [← List.append_assoc, ← List.cons_append, List.getLast?_concat]
    simpa using hb.2

theorem trimmed_of_forall (h : ∀ c ∈ s, isSpace c = false) : Trimmed s :=
  ⟨fun c hc => h c (List.mem_of_head? hc), fun c hc => h c (List.mem_of_getLast? hc)⟩

/-- What trimming takes away behind a text. -/
theorem trim_append_takeWhile (s : List Char) :
    trim s ++ ((trimStart s).reverse.takeWhile isSpace).reverse = trimStart s := by
  rw [trim, trimEnd, ← List.reverse_append, List.takeWhile_append_dropWhile, List.reverse_reverse]

/-- A text is what is left of it between white space on either side. -/
theorem exists_trim (s : List Char) :
    ∃ before after, s = before ++ trim s ++ after ∧ isBlank before = true ∧
      isBlank after = true := by
  refine ⟨s.takeWhile isSpace, ((trimStart s).reverse.takeWhile isSpace).reverse, ?_, ?_, ?_⟩
  · rw [List.append_assoc, trim_append_takeWhile, trimStart, List.takeWhile_append_dropWhile]
  · exact List.all_takeWhile
  · rw [isBlank, List.all_reverse]
    exact List.all_takeWhile

/-- What is trimmed once is trimmed. -/
theorem trimmed_trim (s : List Char) : Trimmed (trim s) := by
  constructor
  · intro c hc
    -- The first character is the first one behind the white space in front.
    have hfirst : (trimStart s).head? = some c := by
      rw [← trim_append_takeWhile, List.head?_append, hc]
      rfl
    have hstop := List.head?_dropWhile_not isSpace s
    rw [← trimStart, hfirst] at hstop
    simpa using hstop
  · intro c hc
    rw [trim, trimEnd, List.getLast?_reverse] at hc
    have hstop := List.head?_dropWhile_not isSpace (trimStart s).reverse
    rw [hc] at hstop
    simpa using hstop

theorem trim_eq_self_iff : trim s = s ↔ Trimmed s :=
  ⟨fun h => h ▸ trimmed_trim s, Trimmed.trim_eq⟩

theorem trim_eq_nil_iff : trim s = [] ↔ isBlank s = true := by
  constructor
  · intro h
    obtain ⟨before, after, hs, hbefore, hafter⟩ := exists_trim s
    rw [h, List.append_nil] at hs
    rw [hs, isBlank_append, hbefore, hafter]
    rfl
  · intro h
    have hnil : trim (s ++ []) = trim [] := trim_of_isBlank_append h
    rwa [List.append_nil] at hnil

end Trim

/-! ## Numbers -/

theorem isSpace_of_isDigit {c : Char} (h : c.isDigit = true) : isSpace c = false := by
  have hdigit : 48 ≤ c.toNat ∧ c.toNat ≤ 57 := by
    simpa [Char.isDigit, UInt32.le_iff_toNat_le] using h
  simp only [isSpace, Bool.or_eq_false_iff, Bool.and_eq_false_iff, decide_eq_false_iff_not,
    beq_eq_false_iff_ne]
  omega

/-- A text spells a number: decimal digits, at least one, and one optional plus sign in front of
them. -/
def Spells (s : List Char) (n : Nat) : Prop :=
  ∃ digits, (s = digits ∨ s = '+' :: digits) ∧ digits ≠ [] ∧ digits.all Char.isDigit = true ∧
    digitsValue 0 digits = n

section Numeral

variable {s : List Char} {n : Nat}

/-- Digits give the number that they stand for, and nothing else gives one. -/
theorem parseDigits?_eq_some_iff :
    parseDigits? s = some n ↔ s ≠ [] ∧ s.all Char.isDigit = true ∧ digitsValue 0 s = n := by
  rw [parseDigits?]
  split
  · rename_i h
    rw [Bool.or_eq_true, List.isEmpty_iff, Bool.not_eq_true'] at h
    constructor
    · exact fun hnone => absurd hnone (by simp)
    · rintro ⟨hne, hdigits, -⟩
      rcases h with h | h
      · exact absurd h hne
      · exact absurd hdigits (by simp [h])
  · rename_i h
    rw [Bool.or_eq_true, List.isEmpty_iff, Bool.not_eq_true', not_or, Bool.not_eq_false] at h
    rw [Option.some_inj]
    exact ⟨fun hn => ⟨h.1, h.2, hn⟩, fun hn => hn.2.2⟩

theorem dropPlus_of_isDigit (h : s.all Char.isDigit = true) : dropPlus s = s := by
  cases s with
  | nil => rfl
  | cons c rest =>
      have hc : c ≠ '+' := by
        rintro rfl
        simp at h
      rw [dropPlus]
      simpa using hc

/-- A text spells a number if digits with that value are left of it behind an optional plus sign. -/
theorem spells_iff_dropPlus : Spells s n ↔ parseDigits? (dropPlus s) = some n := by
  rw [parseDigits?_eq_some_iff]
  constructor
  · rintro ⟨digits, rfl | rfl, hne, hdigits, hn⟩
    · rw [dropPlus_of_isDigit hdigits]
      exact ⟨hne, hdigits, hn⟩
    · exact ⟨hne, hdigits, hn⟩
  · rintro ⟨hne, hdigits, hn⟩
    refine ⟨dropPlus s, ?_, hne, hdigits, hn⟩
    unfold dropPlus
    split
    · exact .inr rfl
    · exact .inl rfl

/-- What is read as a word is what spells a number that a word can hold. -/
theorem parseWord?_eq_some_iff : parseWord? s = some n ↔ Spells s n ∧ n ≤ maxWord := by
  rw [parseWord?, Option.filter_eq_some_iff, spells_iff_dropPlus, decide_eq_true_iff]

/-- A text spells one number at most. -/
theorem Spells.unique {m : Nat} (hm : Spells s m) (hn : Spells s n) : m = n :=
  Option.some_inj.1 ((spells_iff_dropPlus.1 hm).symm.trans (spells_iff_dropPlus.1 hn))

theorem digitsValue_eq_ofDigitChars (digits : List Char) (n : Nat) :
    digitsValue n digits = Nat.ofDigitChars 10 digits n := by
  rw [digitsValue, Nat.ofDigitChars_eq_foldl]
  congr 1
  funext value c
  rw [Nat.mul_comm]
  rfl

theorem all_isDigit_decimal (n : Nat) : (decimal n).all Char.isDigit = true :=
  List.all_eq_true.2 fun _ => Nat.isDigit_of_mem_toDigits (by decide) (by decide)

/-- The digits that the program writes spell the number that they were written for. -/
theorem spells_decimal (n : Nat) : Spells (decimal n) n := by
  refine ⟨decimal n, .inl rfl, Nat.toDigits_ne_nil, all_isDigit_decimal n, ?_⟩
  rw [digitsValue_eq_ofDigitChars]
  exact Nat.ofDigitChars_ten_toDigits

end Numeral

end QueryBridge.Text
