import QueryBridge.Proofs.Unicode.Tables
import QueryBridge.Unicode.Normal

/-!
# Normal form keeps spaces and control characters

A character up to the space has no parts (`parts?_of_le`), and nothing is composed with it
(`compose?_eq_none`), since no composite character begins that early or has such a part. So it stays
where it is while a text is brought into normal form (`mem_normalize`), whatever stands beside it.
-/

set_option autoImplicit false

namespace QueryBridge.Unicode

-- Every piece is evaluated by itself: the kernel does not get through the table as a whole.
set_option maxRecDepth 10000 in
/-- The parts of composite characters are no spaces or control characters. -/
theorem Composition.payloadsBeyond : ∀ piece ∈ Composition.rows, PayloadsBeyond 0x20 piece := by
  delta Composition.rows
  repeat' first
    | exact List.forall_mem_nil _
    | refine List.forall_mem_cons.2 ⟨payloadsBeyond_ofList (by decide +kernel), ?_⟩

namespace Normal

variable {c : Char}

theorem parts?_of_le (h : c.toNat ≤ 0x20) : parts? c = none := by
  rw [parts?, Option.bind_eq_none_iff]
  intro row hrow
  -- The first word of the table stands for U+00C0, which is behind every such character.
  have hfirst := Table.le_start_of_row? "5cP1t.lc".toList rfl (by decide +kernel) hrow
  have hvalue : (Row.ofWord 0 "5cP1t.lc".toList).start = 192 := by decide
  rw [partsIn?]
  split
  · rw [if_neg (by omega)]
  · rfl

theorem composeHangul?_eq_none {first second : Char}
    (h : first.toNat ≤ 0x20 ∨ second.toNat ≤ 0x20) : composeHangul? first second = none := by
  have hsyllable : firstSyllable = 0xAC00 := rfl
  rw [composeHangul?, if_neg (by simp; omega), if_neg (by simp; omega)]

/-- Nothing is composed with a control character or a blank. -/
theorem compose?_eq_none {first second : Char} (h : first.toNat ≤ 0x20 ∨ second.toNat ≤ 0x20) :
    compose? first second = none := by
  have htable : composites.find? (fun row => row.payload = [first.toNat, second.toNat]) = none := by
    rw [Array.find?_eq_none]
    intro row hrow hpayload
    -- A row with these two parts would carry a number that is not beyond the space.
    have hparts : ∀ n ∈ row.payload, 0x20 < n := fun n hn =>
      Table.lt_of_mem_payload Composition.payloadsBeyond (Array.mem_toList_iff.2 hrow) hn
    rw [of_decide_eq_true hpayload] at hparts
    have hfirst := hparts first.toNat List.mem_cons_self
    have hsecond := hparts second.toNat (List.mem_cons_of_mem _ List.mem_cons_self)
    omega
  rw [compose?, composeHangul?_eq_none h, htable]
  rfl

/-- Decomposing keeps control characters and blanks. -/
theorem mem_decompose (h : c.toNat ≤ 0x20) (depth : Nat) : c ∈ decompose depth c := by
  cases depth with
  | zero => exact List.mem_singleton_self c
  | succ depth =>
      have hsyllable : firstSyllable = 0xAC00 := rfl
      have hnone : ¬ (firstSyllable ≤ c.toNat && c.toNat < firstSyllable + syllables) = true := by
        simp only [Bool.and_eq_true, decide_eq_true_iff]
        omega
      rw [decompose, if_neg hnone, parts?_of_le h]
      exact List.mem_singleton_self c

theorem mem_insertMark {mark : Char} {s : List Char} (h : c = mark ∨ c ∈ s) :
    c ∈ insertMark mark s := by
  induction s with
  | nil =>
      rw [insertMark]
      simpa using h
  | cons d rest ih =>
      rw [insertMark]
      split
      · rcases h with hmark | hin
        · exact List.mem_cons_of_mem d (ih (.inl hmark))
        · rcases List.mem_cons.1 hin with rfl | hrest
          · exact List.mem_cons_self
          · exact List.mem_cons_of_mem d (ih (.inr hrest))
      · simpa using h

theorem mem_foldl_insertMark {s : List Char} :
    ∀ {before : List Char}, c ∈ before ∨ c ∈ s →
      c ∈ s.foldl (fun before d => insertMark d before) before := by
  induction s with
  | nil =>
      intro before hin
      simpa using hin
  | cons d rest ih =>
      intro before hin
      rw [List.foldl_cons]
      apply ih
      rcases hin with hbefore | hin
      · exact .inl (mem_insertMark (.inr hbefore))
      · rcases List.mem_cons.1 hin with hmark | hrest
        · exact .inl (mem_insertMark (.inl hmark))
        · exact .inr hrest

theorem mem_order {s : List Char} (h : c ∈ s) : c ∈ order s :=
  List.mem_reverse.2 (mem_foldl_insertMark (.inr h))

/-- Composition keeps a space or a control character wherever it stands. -/
theorem mem_composeFrom (h : c.toNat ≤ 0x20) {rest : List Char} :
    ∀ {before marks : List Char} {starter : Char},
      c ∈ before ∨ c = starter ∨ c ∈ marks ∨ c ∈ rest →
        c ∈ composeFrom before starter marks rest := by
  -- By induction on what is left to read: each step moves the character among the four places.
  induction rest with
  | nil =>
      intro before marks starter hin
      rw [composeFrom]
      simpa [or_comm, or_left_comm] using hin
  | cons d rest ih =>
      intro before marks starter hin
      rw [composeFrom]
      simp only [List.mem_cons] at hin
      generalize hblocked :
        marks.head?.any (fun mark => combiningClass d ≤ combiningClass mark) = blocked
      cases hcomposed : if blocked then none else compose? starter d with
      | some composite =>
          dsimp only
          apply ih
          -- Neither of the two characters that are composed is the one that is kept.
          have hcompose : compose? starter d = some composite := by
            cases blocked <;> simp_all
          have hstarter : c ≠ starter := by
            rintro rfl
            rw [compose?_eq_none (.inl h)] at hcompose
            cases hcompose
          have hd : c ≠ d := by
            rintro rfl
            rw [compose?_eq_none (.inr h)] at hcompose
            cases hcompose
          rcases hin with hbefore | hin | hmarks | hin | hrest
          · exact .inl hbefore
          · exact absurd hin hstarter
          · exact .inr (.inr (.inl hmarks))
          · exact absurd hin hd
          · exact .inr (.inr (.inr hrest))
      | none =>
          dsimp only
          split
          · apply ih
            simp only [List.mem_append, List.mem_cons, List.not_mem_nil, false_or]
            rcases hin with hbefore | hin | hmarks | hin | hrest
            · exact .inl (.inr (.inr hbefore))
            · exact .inl (.inr (.inl hin))
            · exact .inl (.inl hmarks)
            · exact .inr (.inl hin)
            · exact .inr (.inr hrest)
          · apply ih
            simp only [List.mem_cons]
            rcases hin with hbefore | hin | hmarks | hin | hrest
            · exact .inl hbefore
            · exact .inr (.inl hin)
            · exact .inr (.inr (.inl (.inr hmarks)))
            · exact .inr (.inr (.inl (.inl hin)))
            · exact .inr (.inr (.inr hrest))

/-- Normal form keeps spaces and control characters. -/
theorem mem_normalize (h : c.toNat ≤ 0x20) {s : List Char} (hin : c ∈ s) : c ∈ normalize s := by
  have hdecomposed : c ∈ s.flatMap (decompose maxDepth) :=
    List.mem_flatMap.2 ⟨c, hin, mem_decompose h maxDepth⟩
  have hordered := mem_order hdecomposed
  rw [normalize]
  generalize order (s.flatMap (decompose maxDepth)) = ordered at hordered
  rw [compose]
  split
  · exact hordered
  · rename_i starter rest hrest
    rw [← List.takeWhile_append_dropWhile (p := (combiningClass · ≠ 0)) (l := ordered), hrest]
      at hordered
    apply mem_composeFrom h
    simpa [or_assoc] using hordered

end Normal

end QueryBridge.Unicode
