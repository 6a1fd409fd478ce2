import QueryBridge.Unicode.Table

/-!
# What holds of all rows of a table

A table is read from words one after the other, so its rows are given by a recursion on the words
(`rowsFrom`, `toList_ofPieces`), and they start in ascending order. The search ends at the first row
or at a row that starts at the code point or before (`search_low_or_start_le`). So a table need not
be evaluated as a whole: its first words settle the code points that these cover
(`Table.row?_ofPieces`), and what its rows carry is checked piece by piece
(`Table.lt_of_mem_payload`).
-/

set_option autoImplicit false

namespace QueryBridge.Unicode

/-! ## The rows of words -/

/-- The words of the characters of a piece. -/
def wordsIn (chars : List Char) : List (List Char) :=
  (Text.splitAll (· = ' ') chars).filter (!·.isEmpty)

/-- The words of a piece. -/
def wordsOf (piece : String) : List (List Char) :=
  wordsIn piece.toList

theorem wordsOf_ofList (chars : List Char) : wordsOf (String.ofList chars) = wordsIn chars := by
  rw [wordsOf, String.toList_ofList]

/-- The rows of words, the first of which stands behind a row with the given start. -/
def rowsFrom (before : Nat) : List (List Char) → List Row
  | [] => []
  | word :: rest => Row.ofWord before word :: rowsFrom (Row.ofWord before word).start rest

namespace Table

/-- Extending a table adds rows at its end, counted on from its last one. -/
theorem toList_extend (rows : Table) (words : List (List Char)) :
    (rows.extend words).toList =
      rows.toList ++ rowsFrom (rows.back?.elim 0 Row.start) words := by
  induction words generalizing rows with
  | nil => simp [extend, rowsFrom]
  | cons word words ih =>
      have hstep : rows.extend (word :: words) =
          extend (rows.push (Row.ofWord (rows.back?.elim 0 Row.start) word)) words := rfl
      rw [hstep, ih]
      simp [rowsFrom]

theorem extend_append (rows : Table) (words more : List (List Char)) :
    rows.extend (words ++ more) = (rows.extend words).extend more := by
  simp [extend]

/-- The rows of a table are those of the words of all its pieces. -/
theorem toList_ofPieces (pieces : List String) :
    (ofPieces pieces).toList = rowsFrom 0 (pieces.flatMap wordsOf) := by
  -- The rows that are there already are general, since each piece is read behind the ones before
  -- it.
  have hfold : ∀ rows : Table,
      pieces.foldl (fun rows piece => rows.extend (wordsOf piece)) rows =
        rows.extend (pieces.flatMap wordsOf) := by
    induction pieces with
    | nil =>
        intro rows
        rfl
    | cons piece pieces ih =>
        intro rows
        rw [List.foldl_cons, ih, List.flatMap_cons, extend_append]
  have hpieces : ofPieces pieces = Table.extend #[] (pieces.flatMap wordsOf) := hfold #[]
  rw [hpieces, toList_extend]
  rfl

end Table

theorem le_start_ofWord (before : Nat) (word : List Char) :
    before ≤ (Row.ofWord before word).start := by
  rw [Row.ofWord]
  split
  · exact Nat.le_add_right _ _
  · exact Nat.le_add_right _ _

/-- What a row carries does not depend on where it starts. -/
theorem payload_ofWord (before : Nat) (word : List Char) :
    (Row.ofWord before word).payload = (Row.ofWord 0 word).payload := by
  rw [Row.ofWord, Row.ofWord]
  split <;> rfl

/-- The rows that words stand for begin where the counting begins, or later. -/
theorem le_start_of_mem_rowsFrom {row : Row} {words : List (List Char)} :
    ∀ {before : Nat}, row ∈ rowsFrom before words → before ≤ row.start := by
  induction words with
  | nil =>
      intro before h
      cases h
  | cons word words ih =>
      intro before h
      rcases List.mem_cons.1 h with rfl | hrest
      · exact le_start_ofWord before word
      · exact Nat.le_trans (le_start_ofWord before word) (ih hrest)

/-- Every row comes from a word, which tells its payload. -/
theorem exists_word_of_mem_rowsFrom {row : Row} {words : List (List Char)} :
    ∀ {before : Nat}, row ∈ rowsFrom before words →
      ∃ word ∈ words, row.payload = (Row.ofWord 0 word).payload := by
  induction words with
  | nil =>
      intro before h
      cases h
  | cons word words ih =>
      intro before h
      rcases List.mem_cons.1 h with rfl | hrest
      · exact ⟨word, List.mem_cons_self, payload_ofWord before word⟩
      · obtain ⟨other, hother, hpayload⟩ := ih hrest
        exact ⟨other, List.mem_cons_of_mem word hother, hpayload⟩

/-! ## The search -/

namespace Table

/-- The search ends where it began or at a row that starts at the code point or before. -/
theorem search_low_or_start_le (rows : Table) (code halvings low high : Nat) :
    rows.search code halvings low high = low ∨
      rows[rows.search code halvings low high]?.any (·.start ≤ code) = true := by
  -- By induction on the halvings: the lower bound only moves up to a row that starts early enough.
  induction halvings generalizing low high with
  | zero => exact .inl rfl
  | succ halvings ih =>
      rw [search]
      by_cases hdone : high ≤ low + 1
      · rw [if_pos hdone]
        exact .inl rfl
      · rw [if_neg hdone]
        dsimp only
        by_cases hmiddle : rows[(low + high) / 2]?.any (·.start ≤ code) = true
        · rw [if_pos hmiddle]
          rcases ih ((low + high) / 2) high with hlow | hstart
          · rw [hlow]
            exact .inr hmiddle
          · exact .inr hstart
        · rw [if_neg hmiddle]
          exact ih low ((low + high) / 2)

theorem mem_of_row? {rows : Table} {code : Nat} {row : Row} (h : rows.row? code = some row) :
    row ∈ rows.toList := by
  rw [row?] at h
  exact Array.mem_toList_iff.2 (Array.mem_of_getElem? h)

/-- A code point in front of the second row has the first row. -/
theorem row?_eq_first {rows : Table} {first : Row} {others : List Row} {code : Nat}
    (hrows : rows.toList = first :: others) (hlater : ∀ row ∈ others, code < row.start) :
    rows.row? code = some first := by
  have hget : ∀ index : Nat, rows[index]? = (first :: others)[index]? := by
    intro index
    rw [← hrows, Array.getElem?_toList]
  rw [row?, hget]
  rcases search_low_or_start_le rows code 32 0 rows.size with hlow | hstart
  · rw [hlow]
    rfl
  · rw [hget] at hstart
    cases hindex : rows.search code 32 0 rows.size with
    | zero => rfl
    | succ index =>
        -- Any other row that the search could end at starts behind the code point.
        rw [hindex, List.getElem?_cons_succ, Option.any_eq_true] at hstart
        obtain ⟨row, hrow, hle⟩ := hstart
        have hlt := hlater row (List.mem_of_getElem? hrow)
        exact absurd (of_decide_eq_true hle) (Nat.not_le_of_lt hlt)

end Table

/-! ## What a table is read from -/

section Pieces

variable {pieces more : List String} {chars : List Char}

/-- A table begins with the first words of its first piece. -/
theorem exists_words {n : Nat} {front : List (List Char)}
    (hpieces : pieces = String.ofList chars :: more) (hfront : (wordsIn chars).take n = front) :
    ∃ words, pieces.flatMap wordsOf = front ++ words := by
  refine ⟨(wordsIn chars).drop n ++ more.flatMap wordsOf, ?_⟩
  rw [hpieces, List.flatMap_cons, wordsOf_ofList, ← hfront, ← List.append_assoc,
    List.take_append_drop]

/-- A code point that the second word is too far away for has the row of the first word. -/
theorem Table.row?_ofPieces (first second : List Char) {code : Nat}
    (hpieces : pieces = String.ofList chars :: more)
    (hfront : (wordsIn chars).take 2 = [first, second])
    (hcode : code < (Row.ofWord (Row.ofWord 0 first).start second).start) :
    (ofPieces pieces).row? code = some (Row.ofWord 0 first) := by
  obtain ⟨words, hwords⟩ := exists_words hpieces hfront
  have hrows : (ofPieces pieces).toList =
      Row.ofWord 0 first :: rowsFrom (Row.ofWord 0 first).start (second :: words) := by
    rw [toList_ofPieces, hwords]
    rfl
  apply row?_eq_first hrows
  intro row hrow
  rw [rowsFrom] at hrow
  rcases List.mem_cons.1 hrow with rfl | hlater
  · exact hcode
  · exact Nat.lt_of_lt_of_le hcode (le_start_of_mem_rowsFrom hlater)

/-- No row starts in front of that of the first word. -/
theorem Table.le_start_of_row? (first : List Char) {code : Nat} {row : Row}
    (hpieces : pieces = String.ofList chars :: more) (hfront : (wordsIn chars).take 1 = [first])
    (h : (ofPieces pieces).row? code = some row) : (Row.ofWord 0 first).start ≤ row.start := by
  obtain ⟨words, hwords⟩ := exists_words hpieces hfront
  have hmem := mem_of_row? h
  rw [toList_ofPieces, hwords, List.singleton_append, rowsFrom] at hmem
  rcases List.mem_cons.1 hmem with rfl | hlater
  · exact Nat.le_refl _
  · exact le_start_of_mem_rowsFrom hlater

/-- A piece whose rows carry nothing but numbers beyond a bound. -/
def PayloadsBeyond (bound : Nat) (piece : String) : Prop :=
  ∀ word ∈ wordsOf piece, ∀ n ∈ (Row.ofWord 0 word).payload, bound < n

theorem payloadsBeyond_ofList {bound : Nat}
    (h : (wordsIn chars).all (fun word => (Row.ofWord 0 word).payload.all (bound < ·)) = true) :
    PayloadsBeyond bound (String.ofList chars) := by
  intro word hword n hn
  rw [wordsOf_ofList] at hword
  exact of_decide_eq_true (List.all_eq_true.1 (List.all_eq_true.1 h word hword) n hn)

/-- What the rows of a table carry is beyond a bound if that holds piece by piece. -/
theorem Table.lt_of_mem_payload {bound n : Nat} {row : Row}
    (hpieces : ∀ piece ∈ pieces, PayloadsBeyond bound piece)
    (hrow : row ∈ (ofPieces pieces).toList) (hn : n ∈ row.payload) : bound < n := by
  rw [toList_ofPieces] at hrow
  obtain ⟨word, hword, hpayload⟩ := exists_word_of_mem_rowsFrom hrow
  obtain ⟨piece, hpiece, hin⟩ := List.mem_flatMap.1 hword
  rw [hpayload] at hn
  exact hpieces piece hpiece word hin n hn

end Pieces

end QueryBridge.Unicode
