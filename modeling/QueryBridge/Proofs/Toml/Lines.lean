import QueryBridge.Toml.Reader
import QueryBridge.Proofs.Toml.Strings

/-!
# Lines with bare keys

A header with one bare key, and a bare key with a string or a decimal behind it, each on a line of
its own, are read as the statements that they say. A decimal is a run of digits up to the end of its
line, and has no zero in front unless it is one (`read_decimal`).
-/

set_option autoImplicit false

namespace QueryBridge.Toml

/-! ## Keys -/

section Keys

variable {key rest : List Char}

/-- A bare key is read up to the first character that is none of one. -/
theorem readKey_bare (hne : key ≠ []) (hbare : ∀ c ∈ key, isBare c = true)
    (hrest : ∀ c ∈ rest.head?, isBare c = false) :
    readKey (key ++ rest) = some (String.ofList key, rest) := by
  obtain ⟨htake, hdrop⟩ := Text.span_append hbare hrest
  obtain ⟨c, others, rfl⟩ := List.exists_cons_of_ne_nil hne
  have hc := hbare c List.mem_cons_self
  rw [List.cons_append] at htake hdrop ⊢
  rw [readKey]
  · rw [htake, hdrop]
    rfl
  · rintro t ht
    cases ht
    cases hc
  · rintro t ht
    cases ht
    cases hc

theorem isBlank_of_isBare {c : Char} (h : isBare c = true) : isBlank c = false := by
  rw [isBlank, Bool.or_eq_false_iff, decide_eq_false_iff_not, decide_eq_false_iff_not]
  constructor
  · rintro rfl
    cases h
  · rintro rfl
    cases h

/-- A name of one bare key goes up to what stands behind the blanks after it. -/
theorem readName_bare (hne : key ≠ []) (hbare : ∀ c ∈ key, isBare c = true)
    (hrest : ∀ c ∈ rest.head?, isBare c = false)
    (hpoint : (rest.dropWhile isBlank).head? ≠ some '.') :
    readName (key ++ rest) = some (⟨[], String.ofList key⟩, rest.dropWhile isBlank) := by
  have hkey := readKey_bare hne hbare hrest
  obtain ⟨c, others, rfl⟩ := List.exists_cons_of_ne_nil hne
  have hblank : (c :: others ++ rest).dropWhile isBlank = c :: others ++ rest := by
    rw [List.cons_append, List.dropWhile_cons_of_neg]
    rw [isBlank_of_isBare (hbare c List.mem_cons_self)]
    exact Bool.false_ne_true
  have hkeys (fuel : Nat) : readKeys (fuel + 1) (c :: others ++ rest) =
      some ([String.ofList (c :: others)], rest.dropWhile isBlank) := by
    rw [readKeys, hblank, hkey, Option.bind_some]
    dsimp only
    split
    · rename_i heq
      rw [heq] at hpoint
      exact absurd rfl hpoint
    · rfl
  have hlength : (c :: others ++ rest).length = (others ++ rest).length + 1 := rfl
  rw [readName, hlength, hkeys]
  rfl

end Keys

/-! ## Decimals -/

section Decimals

variable {n : Nat}

theorem digits?_of_all_isDigit {s : List Char} (hne : s ≠ []) (h : ∀ c ∈ s, c.isDigit = true) :
    Scalar.digits? Char.isDigit s = some s := by
  induction s with
  | nil => exact absurd rfl hne
  | cons c s ih =>
      rw [List.forall_mem_cons] at h
      obtain ⟨hc, hs⟩ := h
      cases s with
      | nil => rw [Scalar.digits?, if_pos hc]
      | cons d s =>
          have hd : d ≠ '_' := by
            rintro rfl
            cases hs '_' List.mem_cons_self
          rw [Scalar.digits?, if_pos hc, ih (List.cons_ne_nil d s) hs]
          · rfl
          · exact fun hnil => List.cons_ne_nil d s hnil
          · rintro t ht
            cases ht
            exact hd rfl

/-- The digits of a number have the same value in a document as elsewhere. -/
theorem foldl_hexDigit?_eq_digitsValue {s : List Char} (h : ∀ c ∈ s, c.isDigit = true) (m : Nat) :
    s.foldl (fun n c => n * 10 + (Text.hexDigit? c).getD 0) m = Text.digitsValue m s := by
  induction s generalizing m with
  | nil => rfl
  | cons c s ih =>
      rw [List.forall_mem_cons] at h
      obtain ⟨hc, hs⟩ := h
      have hdigit : Text.hexDigit? c = some (Text.digitValue c) := by
        rw [Text.hexDigit?, if_pos hc]
      rw [List.foldl_cons, ih hs, hdigit]
      rfl

theorem isDigit_of_mem_decimal {c : Char} (h : c ∈ Text.decimal n) : c.isDigit = true :=
  Nat.isDigit_of_mem_toDigits (by decide) (by decide) h

theorem valueOf_decimal (n : Nat) : Scalar.valueOf 10 (Text.decimal n) = n := by
  have hvalue : Text.digitsValue 0 (Text.decimal n) = n := by
    rw [Text.digitsValue_eq_ofDigitChars]
    exact Nat.ofDigitChars_ten_toDigits
  rw [Scalar.valueOf, foldl_hexDigit?_eq_digitsValue fun c => isDigit_of_mem_decimal, hvalue]

/-- A decimal of a positive number begins with no zero. -/
theorem head?_decimal_of_pos (h : 0 < n) : (Text.decimal n).head? ≠ some '0' := by
  induction n using Nat.strongRecOn with
  | ind n ih =>
      rw [Text.decimal, Nat.toDigits_eq_if (by decide)]
      split
      · rename_i hsmall
        have hall : ∀ d < 10, 0 < d → [Nat.digitChar d].head? ≠ some '0' := by decide
        exact hall n hsmall h
      · rename_i hlarge
        have hhead := ih (n / 10) (by omega) (by omega)
        obtain ⟨c, rest, hcons⟩ :=
          List.exists_cons_of_ne_nil (Nat.toDigits_ne_nil (n := n / 10) (b := 10))
        rw [Text.decimal, hcons] at hhead
        rw [hcons, List.cons_append]
        exact hhead

/-- The digits of a number have no zero in front that does not count. -/
theorem wholeDigits?_decimal (n : Nat) :
    Scalar.wholeDigits? (Text.decimal n) = some (Text.decimal n) := by
  have hdigits := digits?_of_all_isDigit (Nat.toDigits_ne_nil (n := n) (b := 10))
    fun c => isDigit_of_mem_decimal
  rw [Scalar.wholeDigits?, Text.decimal, hdigits, Option.filter_some, if_pos]
  rw [Bool.or_eq_true, decide_eq_true_iff, decide_eq_true_iff]
  rcases Nat.eq_zero_or_pos n with rfl | hpos
  · exact .inl rfl
  · exact .inr (head?_decimal_of_pos hpos)

theorem integer?_decimal (n : Nat) : Scalar.integer? (Text.decimal n) = some (n : Int) := by
  -- No letter stands among the digits, so no prefix of another base and no sign does.
  have hprefix {c : Char} (hc : c.isDigit = false) (t : List Char) :
      Text.decimal n ≠ '0' :: c :: t := by
    intro heq
    have hmem : c ∈ Text.decimal n := by
      rw [heq]
      exact List.mem_cons_of_mem _ List.mem_cons_self
    rw [isDigit_of_mem_decimal hmem] at hc
    cases hc
  have hsign {c : Char} (hc : c.isDigit = false) (t : List Char) : Text.decimal n ≠ c :: t := by
    intro heq
    have hmem : c ∈ Text.decimal n := by
      rw [heq]
      exact List.mem_cons_self
    rw [isDigit_of_mem_decimal hmem] at hc
    cases hc
  have hsplit : Scalar.splitSign (Text.decimal n) = (false, Text.decimal n) := by
    rw [Scalar.splitSign]
    · exact hsign (by decide)
    · exact hsign (by decide)
  rw [Scalar.integer?]
  · rw [hsplit]
    simp only [wholeDigits?_decimal, Option.map_some, valueOf_decimal]
    rfl
  · exact hprefix (by decide)
  · exact hprefix (by decide)
  · exact hprefix (by decide)

theorem isEnd_of_isDigit {c : Char} (h : c.isDigit = true) : Scalar.isEnd c = false := by
  have hall : [' ', '\t', '\n', '\r', ',', '#', '=', '[', ']', '\x7b', '\x7d', '\x22', '\x27'].all
      (fun d => !d.isDigit) = true := by decide
  refine Bool.eq_false_iff.2 fun hend => ?_
  have hdigit := List.all_eq_true.1 hall c (List.contains_iff_mem.1 hend)
  rw [h] at hdigit
  cases hdigit

/-- A decimal at the end of a line is read as the number that it was written for. -/
theorem read_decimal (n : Nat) (rest : List Char) :
    Scalar.read (Text.decimal n ++ '\n' :: rest) = some (.integer n, '\n' :: rest) := by
  have hdigits : ∀ c ∈ Text.decimal n, (!Scalar.isEnd c) = true := by
    intro c hc
    rw [isEnd_of_isDigit (isDigit_of_mem_decimal hc)]
    rfl
  have hfeed : ∀ c ∈ ('\n' :: rest).head?, (!Scalar.isEnd c) = false := by
    intro c hc
    cases hc
    decide
  obtain ⟨htake, hdrop⟩ := Text.span_append hdigits hfeed
  have hrun : Scalar.splitRun (Text.decimal n ++ '\n' :: rest) =
      (Text.decimal n, '\n' :: rest) := by
    rw [Scalar.splitRun, htake, hdrop]
    rfl
  have hword {c : Char} (hc : c.isDigit = false) {s : List Char} (hs : c ∈ s) :
      Text.decimal n ≠ s := by
    rintro rfl
    rw [isDigit_of_mem_decimal hs] at hc
    cases hc
  have htrue : Text.decimal n ≠ ['t', 'r', 'u', 'e'] := hword (c := 't') (by decide) (by decide)
  have hfalse : Text.decimal n ≠ ['f', 'a', 'l', 's', 'e'] :=
    hword (c := 'f') (by decide) (by decide)
  have hnode : Scalar.ofRun? (Text.decimal n) = some (.integer n) := by
    rw [Scalar.ofRun?, if_neg htrue, if_neg hfalse, integer?_decimal]
  rw [Scalar.read, hrun]
  simp only [hnode]
  rfl

end Decimals

/-! ## Statements -/

section Statements

variable {key value rest : List Char} {node : Node}

/-- A written text is read back as a value, up to the end of its line. -/
theorem readValue_writeString (fuel depth : Nat) (s : List Char) :
    readValue (fuel + 1) depth (writeString s ++ '\n' :: rest) =
      some (.text (String.ofList s), '\n' :: rest) := by
  have hread : readString (writeString s ++ '\n' :: rest) = some (s, '\n' :: rest) :=
    readString_writeString (by simp) (by simp) s
  have hmark : ∃ t, writeString s = '\x22' :: t ∨ writeString s = '\x27' :: t := by
    rw [writeString]
    cases formOf s with
    | basic => exact ⟨_, .inl rfl⟩
    | literal => exact ⟨_, .inr rfl⟩
    | longBasic => exact ⟨_, .inl rfl⟩
    | longLiteral => exact ⟨_, .inr rfl⟩
  obtain ⟨t, hmark | hmark⟩ := hmark
  · rw [hmark, List.cons_append] at hread ⊢
    rw [readValue, hread]
    rfl
  · rw [hmark, List.cons_append] at hread ⊢
    rw [readValue, hread]
    rfl

/-- A written number is read back as a value, up to the end of its line. -/
theorem readValue_decimal (fuel depth n : Nat) :
    readValue (fuel + 1) depth (Text.decimal n ++ '\n' :: rest) =
      some (.integer n, '\n' :: rest) := by
  have hread := read_decimal n rest
  have hdigits : ∀ c ∈ Text.decimal n, c.isDigit = true := fun c => isDigit_of_mem_decimal
  obtain ⟨c, others, hcons⟩ := List.exists_cons_of_ne_nil (Nat.toDigits_ne_nil (n := n) (b := 10))
  rw [Text.decimal] at hread hdigits ⊢
  rw [hcons, List.cons_append] at hread ⊢
  rw [hcons, List.forall_mem_cons] at hdigits
  have hother {d : Char} (hd : d.isDigit = false) (t : List Char) :
      c :: (others ++ '\n' :: rest) ≠ d :: t := by
    intro heq
    cases heq
    rw [hdigits.1] at hd
    cases hd
  rw [readValue]
  · exact hread
  · exact hother (by decide)
  · exact hother (by decide)
  · exact fun t ht _ => hother (by decide) t ht
  · exact fun t ht _ => hother (by decide) t ht
  · exact fun t _ ht _ => hother (by decide) t ht
  · exact fun t _ ht _ => hother (by decide) t ht

/-- A header with one bare key. -/
theorem readStatement_header (hne : key ≠ []) (hbare : ∀ c ∈ key, isBare c = true) :
    readStatement ('[' :: (key ++ ']' :: rest)) = some (.header ⟨[], String.ofList key⟩, rest) := by
  have hname : readName (key ++ ']' :: rest) = some (⟨[], String.ofList key⟩, ']' :: rest) :=
    readName_bare hne hbare (by simp [isBare]) (by simp [isBlank])
  obtain ⟨c, others, rfl⟩ := List.exists_cons_of_ne_nil hne
  rw [List.cons_append] at hname ⊢
  rw [readStatement]
  · rw [hname]
    rfl
  · rintro t ht
    cases ht
    cases hbare '[' List.mem_cons_self

/-- A bare key and a value, with an equals sign between blanks in between. -/
theorem readStatement_value (hne : key ≠ []) (hbare : ∀ c ∈ key, isBare c = true)
    (hhead : ∀ c ∈ (value ++ rest).head?, isBlank c = false)
    (hvalue : ∀ fuel, readValue (fuel + 1) maxDepth (value ++ rest) = some (node, rest)) :
    readStatement (key ++ ' ' :: '=' :: ' ' :: (value ++ rest)) =
      some (.value ⟨[], String.ofList key⟩ node, rest) := by
  have hname : readName (key ++ ' ' :: '=' :: ' ' :: (value ++ rest)) =
      some (⟨[], String.ofList key⟩, '=' :: ' ' :: (value ++ rest)) :=
    readName_bare hne hbare (by simp [isBare]) (by simp [isBlank])
  have hblank : (' ' :: (value ++ rest)).dropWhile isBlank = value ++ rest := by
    rw [List.dropWhile_cons_of_pos (by decide)]
    cases hcons : value ++ rest with
    | nil => rfl
    | cons c others =>
        rw [hcons] at hhead
        have hc : isBlank c = false := hhead c rfl
        exact List.dropWhile_cons_of_neg (by simp [hc])
  obtain ⟨c, others, rfl⟩ := List.exists_cons_of_ne_nil hne
  have hopen {s : List Char} (t : List Char) : c :: s ≠ '[' :: t := by
    intro heq
    cases (List.cons.inj heq).1
    cases hbare '[' List.mem_cons_self
  rw [List.cons_append] at hname ⊢
  rw [readStatement]
  · rw [hname, Option.bind_some]
    simp only [hblank, hvalue]
    rfl
  · exact fun t ht => hopen _ ht
  · exact fun t ht => hopen _ ht

/-- A statement that ends its line is followed by those of the lines behind it. -/
theorem readStatements_cons {s : List Char} {c : Char} {statement : Statement}
    (hc : c = '[' ∨ isBare c = true)
    (hread : readStatement (c :: s) = some (statement, '\n' :: rest)) (fuel : Nat) :
    readStatements (fuel + 1) (c :: s) = (readStatements fuel rest).map (statement :: ·) := by
  have hgap : skipGap false (c :: s) = some (c :: s) := by
    have hother {d : Char} (hd : d ≠ '[' ∧ isBare d = false) : c ≠ d := by
      rintro rfl
      rcases hc with hc | hc
      · exact hd.1 hc
      · exact Bool.noConfusion (hc.symm.trans hd.2)
    have hspace : c ≠ ' ' := hother (by decide)
    have htab : c ≠ '\t' := hother (by decide)
    have hfeed : c ≠ '\n' := hother (by decide)
    have hreturn : c ≠ '\r' := hother (by decide)
    have hcomment : c ≠ '#' := hother (by decide)
    simp [skipGap, isBlank, hspace, htab, hfeed, hreturn, hcomment]
  have hend : endLine ('\n' :: rest) = some rest := rfl
  rw [readStatements, hgap, Option.bind_some, hread]
  simp only [List.isEmpty_cons, Bool.false_eq_true, if_false, Option.bind_some, hend]

end Statements

end QueryBridge.Toml
