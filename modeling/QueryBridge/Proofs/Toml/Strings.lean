import QueryBridge.Proofs.Text.Spelling
import QueryBridge.Toml.Quoted
import QueryBridge.Toml.Writer

/-!
# Every string is read back from the form it is written in

A text between quotation marks is written character by character, and each character is written in
one of three ways (`Written`), which both readers of such texts undo. A text between apostrophes is
written as it is, so its form is chosen only where it can be. In the long forms up to two marks may
stand together anywhere, also in front of the closing marks; the reader counts those in
(`closeLong_replicate`). Whatever the form, the string is read back (`readString_writeString`).
-/

set_option autoImplicit false

namespace QueryBridge.Toml

/-! ## Characters between quotation marks -/

theorem hexDigit?_hexUpper {d : Nat} (h : d < 16) : Text.hexDigit? (Text.hexUpper d) = some d := by
  have hall : ∀ d < 16, Text.hexDigit? (Text.hexUpper d) = some d := by decide
  exact hall d h

theorem scalar?_toNat (c : Char) : scalar? c.toNat = some c := by
  have hvalid : c.toNat < 0xD800 ∨ (0xDFFF < c.toNat ∧ c.toNat < 0x110000) := c.valid
  have hscalar : (c.toNat < 0xD800 || (0xDFFF < c.toNat && c.toNat < 0x110000)) = true := by
    simpa using hvalid
  rw [scalar?, if_pos hscalar, Char.ofNat_toNat]

/-- The ways in which a character other than a quotation mark is written between quotation marks. -/
inductive Written (long : Bool) (c : Char) : List Char → Prop where
  | plain (hback : c ≠ '\\') (hplain : isPlain c = true ∨ (long = true ∧ c = '\n')) :
    Written long c [c]
  | letter (d : Char) (h : shortEscape? d = some c) : Written long c ['\\', d]
  | code (h : c.toNat < 256) :
    Written long c
      ['\\', 'u', '0', '0', Text.hexUpper (c.toNat / 16), Text.hexUpper (c.toNat % 16)]

/-- Escaping writes a character in one of the ways that are read back. -/
theorem written_escapeChar (long : Bool) (c : Char) : Written long c (escapeChar long c) := by
  unfold escapeChar
  split
  · exact .letter 'b' rfl
  · exact .letter 't' rfl
  · cases long with
    | true => exact .plain (by decide) (.inr ⟨rfl, rfl⟩)
    | false => exact .letter 'n' rfl
  · exact .letter 'f' rfl
  · exact .letter 'r' rfl
  · exact .letter '\\' rfl
  -- Any other character is written as its code or as it is.
  · rename_i hback
    split
    · rename_i hcode
      refine .code ?_
      rw [Bool.or_eq_true, decide_eq_true_iff, decide_eq_true_iff] at hcode
      rcases hcode with hlow | rfl
      · omega
      · decide
    · rename_i hcode
      refine .plain hback (.inl ?_)
      rw [Bool.or_eq_true, decide_eq_true_iff, decide_eq_true_iff, not_or] at hcode
      obtain ⟨hlow, hdelete⟩ := hcode
      have hne : c.toNat ≠ 0x7F := by
        intro heq
        refine hdelete ?_
        rw [← Char.ofNat_toNat c, heq]
      simp only [isPlain, Bool.or_eq_true, Bool.and_eq_true, decide_eq_true_iff]
      exact .inr ⟨Nat.not_lt.1 hlow, hne⟩

theorem head?_written {long : Bool} {c : Char} {w : List Char} (hc : c ≠ '\x22')
    (h : Written long c w) (rest : List Char) : (w ++ rest).head? ≠ some '\x22' := by
  cases h with
  | plain hback hplain => simpa using hc
  | letter d hd => simp
  | code hcode => simp

/-- Between quotation marks a text begins with one only if it is one itself and may stand there. -/
theorem head?_escapeFrom {long : Bool} {run : Nat} {c : Char}
    (h : c ≠ '\x22' ∨ ¬ run < (if long then 2 else 0)) (s rest : List Char) :
    (escapeFrom long run (c :: s) ++ rest).head? ≠ some '\x22' := by
  rw [escapeFrom]
  split
  · rename_i hc
    rw [if_neg (h.resolve_left fun hne => hne hc)]
    simp
  · rename_i hc
    rw [List.append_assoc]
    exact head?_written hc (written_escapeChar long c) _

/-! ## Short strings -/

/-- The reader of basic strings undoes each way of writing a character. -/
theorem readBasic_written {c : Char} {w : List Char} (hc : c ≠ '\x22') (h : Written false c w)
    (rest : List Char) : readBasic .plain (w ++ rest) = push c (readBasic .plain rest) := by
  cases h with
  | plain hback hplain =>
      have hplain : isPlain c = true := hplain.resolve_right fun hlong => Bool.noConfusion hlong.1
      simp [readBasic, hc, hback, hplain]
  | letter d hd => simp [readBasic, hd]
  | code hcode =>
      have hhigh := hexDigit?_hexUpper (d := c.toNat / 16) (by omega)
      have hlow := hexDigit?_hexUpper (d := c.toNat % 16) (by omega)
      have hzero : Text.hexDigit? '0' = some 0 := by decide
      have hvalue : c.toNat / 16 * 16 + c.toNat % 16 = c.toNat := by omega
      simp [readBasic, shortEscape?, escapeWidth?, hzero, hhigh, hlow, hvalue, scalar?_toNat]

/-- Escaped text between quotes is read back. -/
theorem readBasic_escapeFrom (s rest : List Char) :
    readBasic .plain (escapeFrom false 0 s ++ '\x22' :: rest) = some (s, rest) := by
  induction s with
  | nil => simp [escapeFrom, readBasic]
  | cons c s ih =>
      rw [escapeFrom]
      split
      · rename_i hc
        subst hc
        simp [readBasic, shortEscape?, ih, push]
      · rename_i hc
        rw [List.append_assoc, readBasic_written hc (written_escapeChar false c), ih]
        rfl

/-- Plain text without apostrophes can stand between them as it is. -/
theorem readLiteral_of_plain {s : List Char} (h : ∀ c ∈ s, c ≠ '\x27' ∧ isPlain c = true)
    (rest : List Char) : readLiteral (s ++ '\x27' :: rest) = some (s, rest) := by
  induction s with
  | nil => simp [readLiteral]
  | cons c s ih =>
      rw [List.forall_mem_cons] at h
      obtain ⟨⟨hmark, hplain⟩, hs⟩ := h
      rw [List.cons_append, readLiteral, if_neg hmark, if_pos hplain, ih hs]
      rfl

/-! ## Closing marks -/

section Marks

variable {mark : Char} {rest : List Char}

/-- Two marks at most in front of the three that close a string belong to the text. -/
theorem closeLong_replicate {k : Nat} (hk : k ≤ 2) (hrest : rest.head? ≠ some mark) :
    closeLong mark (List.replicate (k + 3) mark ++ rest) = some (List.replicate k mark, rest) := by
  have hmarks : (List.replicate (k + 3) mark ++ rest).takeWhile (· = mark) =
      List.replicate (k + 3) mark := by
    refine (Text.span_append (fun c hc => ?_) fun c hc => ?_).1
    · exact decide_eq_true (List.eq_of_mem_replicate hc)
    · rw [decide_eq_false_iff_not]
      rintro rfl
      exact hrest hc
  have hfew : k + 3 ≤ 5 := by omega
  simp [closeLong, hmarks, hfew]

theorem isClosing_replicate (k : Nat) :
    isClosing mark (List.replicate (k + 3) mark ++ rest) = true := by
  simp [isClosing, List.replicate_succ]

/-- A mark closes nothing if it is not followed by two more. -/
theorem isClosing_of_ne {c : Char} {s : List Char} (h : c ≠ mark ∨ s.take 2 ≠ [mark, mark]) :
    isClosing mark (c :: s) = false := by
  rw [isClosing, List.take_succ_cons, decide_eq_false_iff_not, List.cons.injEq]
  rintro ⟨hc, hs⟩
  rcases h with h | h
  · exact h hc
  · exact h hs

theorem take_two_ne_of_head? {s : List Char} (h : s.head? ≠ some mark) :
    s.take 2 ≠ [mark, mark] := by
  cases s with
  | nil => simp
  | cons c s =>
      intro htwo
      rw [List.take_succ_cons, List.cons.injEq] at htwo
      exact h (congrArg some htwo.1)

theorem take_two_cons_ne_of_head? {c : Char} {s : List Char} (h : s.head? ≠ some mark) :
    (c :: s).take 2 ≠ [mark, mark] := by
  cases s with
  | nil => simp
  | cons d s =>
      intro htwo
      simp only [List.take_succ_cons, List.take_zero, List.cons.injEq, and_true] at htwo
      exact h (congrArg some htwo.2)

end Marks

/-! ## Long strings -/

/-- The reader of long basic strings undoes each way of writing a character. -/
theorem readLongBasic_written {c : Char} {w : List Char} (hc : c ≠ '\x22') (h : Written true c w)
    (rest : List Char) : readLongBasic .plain (w ++ rest) = push c (readLongBasic .plain rest) := by
  cases h with
  | plain hback hplain =>
      have hopen : isClosing '\x22' (c :: rest) = false := isClosing_of_ne (.inl hc)
      have hlong : isLongPlain c rest = true := by
        rcases hplain with hplain | ⟨-, rfl⟩
        · simp [isLongPlain, hplain]
        · simp [isLongPlain]
      simp [readLongBasic, hopen, hback, hlong]
  | letter d hd =>
      have hopen : isClosing '\x22' ('\\' :: d :: rest) = false :=
        isClosing_of_ne (.inl (by decide))
      simp [readLongBasic, hopen, hd]
  | code hcode =>
      have hhigh := hexDigit?_hexUpper (d := c.toNat / 16) (by omega)
      have hlow := hexDigit?_hexUpper (d := c.toNat % 16) (by omega)
      have hzero : Text.hexDigit? '0' = some 0 := by decide
      have hvalue : c.toNat / 16 * 16 + c.toNat % 16 = c.toNat := by omega
      have hopen (t : List Char) : isClosing '\x22' ('\\' :: t) = false :=
        isClosing_of_ne (.inl (by decide))
      simp [readLongBasic, hopen, shortEscape?, escapeWidth?, hzero, hhigh, hlow, hvalue,
        scalar?_toNat]

/-- A quotation mark that closes nothing belongs to the text. -/
theorem readLongBasic_mark {s : List Char} (h : s.take 2 ≠ ['\x22', '\x22']) :
    readLongBasic .plain ('\x22' :: s) = push '\x22' (readLongBasic .plain s) := by
  have hopen : isClosing '\x22' ('\x22' :: s) = false := isClosing_of_ne (.inr h)
  have hplain : isLongPlain '\x22' s = true := by
    have hmark : isPlain '\x22' = true := by decide
    simp [isLongPlain, hmark]
  simp [readLongBasic, hopen, hplain]

theorem readLongBasic_escaped (s : List Char) :
    readLongBasic .plain ('\\' :: '\x22' :: s) = push '\x22' (readLongBasic .plain s) := by
  have hopen : isClosing '\x22' ('\\' :: '\x22' :: s) = false := isClosing_of_ne (.inl (by decide))
  simp [readLongBasic, hopen, shortEscape?]

/-- Up to two quotes in front of the closing three belong to the text. -/
theorem readLongBasic_close {k : Nat} (hk : k ≤ 2) {rest : List Char}
    (hrest : rest.head? ≠ some '\x22') :
    readLongBasic .plain (List.replicate (k + 3) '\x22' ++ rest) =
      some (List.replicate k '\x22', rest) := by
  have hclosing : isClosing '\x22' (List.replicate (k + 3) '\x22' ++ rest) = true :=
    isClosing_replicate k
  rw [← closeLong_replicate hk hrest, List.replicate_succ, List.cons_append] at *
  simp [readLongBasic, hclosing]

/-- Escaped text between triple quotes is read back, with quotes at its end. -/
theorem readLongBasic_escapeFrom {rest : List Char} (hrest : rest.head? ≠ some '\x22') (run : Nat)
    (s : List Char) :
    readLongBasic .plain (escapeFrom true run s ++ (List.replicate 3 '\x22' ++ rest)) =
      some (s, rest) := by
  induction s generalizing run with
  | nil => exact readLongBasic_close (k := 0) (by decide) hrest
  | cons c s ih =>
      rw [escapeFrom, if_pos rfl]
      split
      · rename_i hc
        subst hc
        split
        · rename_i hrun
          -- The mark stands unescaped. It closes the string if the text ends within the next mark.
          have hmark {t : List Char} (ht : t.take 2 ≠ ['\x22', '\x22'])
              (hread : readLongBasic .plain t = some (s, rest)) :
              readLongBasic .plain ('\x22' :: t) = some ('\x22' :: s, rest) := by
            rw [readLongBasic_mark ht, hread]
            rfl
          cases s with
          | nil => exact readLongBasic_close (k := 1) (by decide) hrest
          | cons d s =>
              by_cases hd : d ≠ '\x22' ∨ ¬ run + 1 < 2
              · exact hmark (take_two_ne_of_head? (head?_escapeFrom hd s _)) (ih (run + 1))
              · rw [not_or, Decidable.not_not, Decidable.not_not] at hd
                obtain ⟨rfl, htwo⟩ := hd
                cases s with
                | nil =>
                    have hend : escapeFrom true (run + 1) ['\x22'] = ['\x22'] := by
                      simp [escapeFrom, htwo]
                    rw [hend]
                    exact readLongBasic_close (k := 2) (by decide) hrest
                | cons e s =>
                    have hthird : (escapeFrom true (run + 1 + 1) (e :: s) ++
                        (List.replicate 3 '\x22' ++ rest)).head? ≠ some '\x22' :=
                      head?_escapeFrom (.inr (by simp)) s _
                    have hsecond : escapeFrom true (run + 1) ('\x22' :: e :: s) =
                        '\x22' :: escapeFrom true (run + 1 + 1) (e :: s) := by
                      rw [escapeFrom, if_pos rfl]
                      simp [htwo]
                    have hopen : (escapeFrom true (run + 1) ('\x22' :: e :: s) ++
                        (List.replicate 3 '\x22' ++ rest)).take 2 ≠ ['\x22', '\x22'] := by
                      rw [hsecond, List.cons_append]
                      exact take_two_cons_ne_of_head? hthird
                    exact hmark hopen (ih (run + 1))
        · rw [List.cons_append, List.cons_append, readLongBasic_escaped, ih 0]
          rfl
      · rename_i hc
        rw [List.append_assoc, readLongBasic_written hc (written_escapeChar true c), ih 0]
        rfl

theorem le_longestRunFrom (mark : Char) (run best : Nat) (s : List Char) :
    best ≤ longestRunFrom mark run best s := by
  induction s generalizing run best with
  | nil => exact Nat.le_refl best
  | cons c s ih =>
      rw [longestRunFrom]
      split
      · exact Nat.le_trans (Nat.le_max_left _ _) (ih _ _)
      · exact ih _ _

/-- A mark makes the run of those in front of it longer by one. -/
theorem longestRunFrom_mark (mark : Char) (run best : Nat) (s : List Char) :
    longestRunFrom mark run best (mark :: s) =
        longestRunFrom mark (run + 1) (max best (run + 1)) s ∧
      run + 1 ≤ longestRunFrom mark run best (mark :: s) := by
  have hlonger : longestRunFrom mark run best (mark :: s) =
      longestRunFrom mark (run + 1) (max best (run + 1)) s := by
    rw [longestRunFrom, if_pos rfl]
  refine ⟨hlonger, ?_⟩
  rw [hlonger]
  exact Nat.le_trans (Nat.le_max_right _ _) (le_longestRunFrom _ _ _ _)

theorem not_mem_of_longestRunFrom {mark : Char} {run best : Nat} {s : List Char}
    (h : longestRunFrom mark run best s = 0) : mark ∉ s := by
  induction s generalizing run best with
  | nil => exact List.not_mem_nil
  | cons c s ih =>
      by_cases hc : c = mark
      · subst hc
        have hlong := (longestRunFrom_mark c run best s).2
        omega
      · rw [longestRunFrom, if_neg hc] at h
        exact List.not_mem_cons_of_ne_of_not_mem (Ne.symm hc) (ih h)

theorem readLongLiteral_close {k : Nat} (hk : k ≤ 2) {rest : List Char}
    (hrest : rest.head? ≠ some '\x27') :
    readLongLiteral (List.replicate (k + 3) '\x27' ++ rest) =
      some (List.replicate k '\x27', rest) := by
  have hclosing : isClosing '\x27' (List.replicate (k + 3) '\x27' ++ rest) = true :=
    isClosing_replicate k
  rw [← closeLong_replicate hk hrest, List.replicate_succ, List.cons_append] at *
  simp [readLongLiteral, hclosing]

/-- A character that does not begin to close the text is read as itself. -/
theorem readLongLiteral_push {c : Char} {s : List Char}
    (h : c ≠ '\x27' ∨ s.take 2 ≠ ['\x27', '\x27']) (hplain : isPlain c = true ∨ c = '\n') :
    readLongLiteral (c :: s) = push c (readLongLiteral s) := by
  have hlong : isLongPlain c s = true := by
    rcases hplain with hplain | rfl
    · simp [isLongPlain, hplain]
    · simp [isLongPlain]
  rw [readLongLiteral, isClosing_of_ne h, if_neg Bool.false_ne_true, if_pos hlong]

/-- A text between three apostrophes is read back if no more than two of its own stand together,
counting the `run` of them in front of it. -/
theorem readLongLiteral_of_runs {rest : List Char} (hrest : rest.head? ≠ some '\x27')
    {run best : Nat} {s : List Char} (hruns : longestRunFrom '\x27' run best s ≤ 2)
    (hplain : ∀ c ∈ s, isPlain c = true ∨ c = '\n') :
    readLongLiteral (s ++ (List.replicate 3 '\x27' ++ rest)) = some (s, rest) := by
  induction s generalizing run best with
  | nil => exact readLongLiteral_close (k := 0) (by decide) hrest
  | cons c s ih =>
      rw [List.forall_mem_cons] at hplain
      obtain ⟨hc, hs⟩ := hplain
      by_cases hmark : c = '\x27'
      · subst hmark
        obtain ⟨hlonger, -⟩ := longestRunFrom_mark '\x27' run best s
        rw [hlonger] at hruns
        have hread := ih hruns hs
        -- The mark closes the string if the text ends within the next mark.
        cases s with
        | nil => exact readLongLiteral_close (k := 1) (by decide) hrest
        | cons d s =>
            by_cases hd : d = '\x27'
            · subst hd
              obtain ⟨hlongest, hfirst⟩ :=
                longestRunFrom_mark '\x27' (run + 1) (max best (run + 1)) s
              cases s with
              | nil => exact readLongLiteral_close (k := 2) (by decide) hrest
              | cons e s =>
                  have he : e ≠ '\x27' := by
                    rintro rfl
                    have hthird := (longestRunFrom_mark '\x27' (run + 1 + 1)
                      (max (max best (run + 1)) (run + 1 + 1)) s).2
                    omega
                  have hhead : (e :: s ++ (List.replicate 3 '\x27' ++ rest)).head? ≠
                      some '\x27' := by simpa using he
                  have hopen : ('\x27' :: e :: s ++ (List.replicate 3 '\x27' ++ rest)).take 2 ≠
                      ['\x27', '\x27'] := take_two_cons_ne_of_head? hhead
                  rw [List.cons_append, readLongLiteral_push (.inr hopen) hc, hread]
                  rfl
            · have hopen : (d :: s ++ (List.replicate 3 '\x27' ++ rest)).head? ≠
                  some '\x27' := by simpa using hd
              rw [List.cons_append, readLongLiteral_push (.inr (take_two_ne_of_head? hopen)) hc,
                hread]
              rfl
      · rw [longestRunFrom, if_neg hmark] at hruns
        rw [List.cons_append, readLongLiteral_push (.inl hmark) hc, ih hruns hs]
        rfl

/-! ## Forms -/

/-- A character that needs no escape is a line feed or may stand as it is. -/
theorem plain_of_needsCode {c : Char} (h : needsCode c = false) : isPlain c = true ∨ c = '\n' := by
  by_cases htab : c = '\t'
  · subst htab
    exact .inl (by decide)
  · by_cases hfeed : c = '\n'
    · exact .inr hfeed
    · left
      simp only [needsCode, htab, hfeed, ne_eq, not_false_eq_true, decide_true, Bool.and_true,
        Bool.or_eq_false_iff, decide_eq_false_iff_not] at h
      obtain ⟨hlow, hdelete⟩ := h
      have hne : c.toNat ≠ 0x7F := by
        intro heq
        refine hdelete ?_
        rw [← Char.ofNat_toNat c, heq]
      simp only [isPlain, Bool.or_eq_true, Bool.and_eq_true, decide_eq_true_iff]
      exact .inr ⟨Nat.not_lt.1 hlow, hne⟩

/-- A text that is written in apostrophes has none itself, and no character that needs an escape. -/
theorem plain_of_formOf_literal {s : List Char} (h : formOf s = .literal) :
    ∀ c ∈ s, c ≠ '\x27' ∧ isPlain c = true := by
  have hchosen : s.any needsCode = false ∧ longestRun '\x27' s = 0 ∧ s.contains '\n' = false := by
    simp only [formOf] at h
    split at h
    · cases h
    · split at h
      · rename_i hliteral
        simpa [and_assoc] using hliteral
      · split at h
        · cases h
        · split at h
          · cases h
          · split at h <;> cases h
  obtain ⟨hcodes, hapostrophes, hfeed⟩ := hchosen
  intro c hc
  refine ⟨fun hmark => not_mem_of_longestRunFrom hapostrophes (hmark ▸ hc), ?_⟩
  have hcode : needsCode c = false := by simpa using List.any_eq_false.1 hcodes c hc
  refine (plain_of_needsCode hcode).resolve_right ?_
  rintro rfl
  rw [List.contains_iff_mem.2 hc] at hfeed
  cases hfeed

/-- Text is put between triple apostrophes only if it is plain and has no three of them in a row. -/
theorem plain_of_formOf_longLiteral {s : List Char} (h : formOf s = .longLiteral) :
    longestRun '\x27' s ≤ 2 ∧ ∀ c ∈ s, isPlain c = true ∨ c = '\n' := by
  have hchosen : s.any needsCode = false ∧ longestRun '\x27' s ≤ 2 := by
    simp only [formOf] at h
    split at h
    · cases h
    · split at h
      · cases h
      · split at h
        · cases h
        · split at h
          · rename_i hliteral
            simpa using hliteral
          · split at h <;> cases h
  obtain ⟨hcodes, hapostrophes⟩ := hchosen
  refine ⟨hapostrophes, fun c hc => plain_of_needsCode ?_⟩
  simpa using List.any_eq_false.1 hcodes c hc

section Forms

variable {s rest : List Char}

theorem readString_basic (h : s.take 2 ≠ ['\x22', '\x22']) :
    readString ('\x22' :: s) = readBasic .plain s := by
  rw [readString]
  · rfl
  · rintro t ht
    cases ht
    exact h rfl
  · rintro t ht
    cases ht

theorem readString_literal (h : s.take 2 ≠ ['\x27', '\x27']) :
    readString ('\x27' :: s) = readLiteral s := by
  rw [readString]
  · rfl
  · rintro t ht
    cases ht
  · rintro t ht
    cases ht
    exact h rfl

/-- The line feed in front of a long text is there exactly if the text has one, so dropping it gives
the text back. -/
theorem dropFirstLineFeed_lead {body : List Char}
    (h : s.contains '\n' = false → body.head? ≠ some '\n' ∧ body.head? ≠ some '\r') :
    dropFirstLineFeed ((if s.contains '\n' then ['\n'] else []) ++ body) = body := by
  cases hfeed : s.contains '\n' with
  | true => rfl
  | false =>
      obtain ⟨hline, hreturn⟩ := h hfeed
      cases body with
      | nil => rfl
      | cons c body =>
          rw [if_neg Bool.false_ne_true, List.nil_append, dropFirstLineFeed]
          · rintro t ht
            cases ht
            exact hline rfl
          · rintro t ht
            cases ht
            exact hreturn rfl

theorem longMarks_append (mark : Char) (s body rest : List Char) :
    longMarks mark s body ++ rest =
      mark :: mark :: mark :: ((if s.contains '\n' then ['\n'] else []) ++
        (body ++ (List.replicate 3 mark ++ rest))) := by
  simp [longMarks, List.replicate_succ]

/-- A text without a line feed begins with no line end between its marks. -/
theorem head?_of_plain {mark : Char} (hmark : mark ≠ '\n' ∧ mark ≠ '\r')
    (hplain : ∀ c ∈ s, isPlain c = true ∨ c = '\n') (hfeed : s.contains '\n' = false) :
    (s ++ (List.replicate 3 mark ++ rest)).head? ≠ some '\n' ∧
      (s ++ (List.replicate 3 mark ++ rest)).head? ≠ some '\r' := by
  cases s with
  | nil => simpa [List.replicate_succ] using hmark
  | cons c s =>
      have hc : c ≠ '\n' := by
        rintro rfl
        simp at hfeed
      have hreturn : c ≠ '\r' := by
        rintro rfl
        rcases hplain '\r' List.mem_cons_self with h | h
        · cases h
        · cases h
      simpa using ⟨hc, hreturn⟩

/-- Escaped text without line feeds does not begin with an end of a line. -/
theorem head?_escapeFrom_of_no_feed (hfeed : s.contains '\n' = false) :
    (escapeFrom true 0 s ++ (List.replicate 3 '\x22' ++ rest)).head? ≠ some '\n' ∧
      (escapeFrom true 0 s ++ (List.replicate 3 '\x22' ++ rest)).head? ≠ some '\r' := by
  cases s with
  | nil => simp [escapeFrom, List.replicate_succ]
  | cons c s =>
      have hc : c ≠ '\n' := by
        rintro rfl
        simp at hfeed
      rw [escapeFrom]
      split
      · simp
      · have hwritten := written_escapeChar true c
        generalize escapeChar true c = w at hwritten
        cases hwritten with
        | letter d hd => simp
        | code hcode => simp
        | plain hback hplain =>
            have hreturn : c ≠ '\r' := by
              rintro rfl
              rcases hplain with h | h
              · cases h
              · cases h.2
            simpa using ⟨hc, hreturn⟩

end Forms

/-- A string is read back from what is written for it. -/
theorem readString_writeString {rest : List Char} (hquote : rest.head? ≠ some '\x22')
    (hapostrophe : rest.head? ≠ some '\x27') (s : List Char) :
    readString (writeString s ++ rest) = some (s, rest) := by
  rw [writeString]
  -- One case for each form that the writer may choose. The first characters behind the opening
  -- quote decide which reader takes over.
  cases hform : formOf s with
  | basic =>
      have hopen : (escapeFrom false 0 s ++ '\x22' :: rest).take 2 ≠ ['\x22', '\x22'] := by
        cases s with
        | nil => exact take_two_cons_ne_of_head? hquote
        | cons c s => exact take_two_ne_of_head? (head?_escapeFrom (.inr (by decide)) s _)
      rw [writeIn, List.cons_append, List.cons_append, List.append_assoc, List.singleton_append,
        readString_basic hopen, readBasic_escapeFrom]
  | literal =>
      have hplain := plain_of_formOf_literal hform
      have hopen : (s ++ '\x27' :: rest).take 2 ≠ ['\x27', '\x27'] := by
        cases s with
        | nil => exact take_two_cons_ne_of_head? hapostrophe
        | cons c s =>
            refine take_two_ne_of_head? ?_
            simpa using (hplain c List.mem_cons_self).1
      rw [writeIn, List.cons_append, List.cons_append, List.append_assoc, List.singleton_append,
        readString_literal hopen, readLiteral_of_plain hplain]
  | longBasic =>
      rw [writeIn, longMarks_append, readString, dropFirstLineFeed_lead head?_escapeFrom_of_no_feed,
        readLongBasic_escapeFrom hquote]
  | longLiteral =>
      obtain ⟨hruns, hplain⟩ := plain_of_formOf_longLiteral hform
      rw [writeIn, longMarks_append, readString,
        dropFirstLineFeed_lead (head?_of_plain (by decide) hplain),
        readLongLiteral_of_runs hapostrophe hruns hplain]

end QueryBridge.Toml
