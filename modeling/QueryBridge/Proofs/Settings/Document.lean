import QueryBridge.Settings.Document
import QueryBridge.Proofs.Toml.Lines

/-!
# Settings survive their document

The text of settings is a header and a line for each setting that is there. It is read as just these
statements (`readStatements_write`), which make the table that gives the settings back
(`tableOf?_statements`, `ofDocument?_table`), whatever characters the endpoint has and however large
the time limit is.
-/

set_option autoImplicit false

namespace QueryBridge.Settings

open QueryBridge.Toml

/-- What the document of settings says. -/
def statements (settings : Settings) : List Statement :=
  .header ⟨[], sectionKey⟩ ::
    (settings.endpoint.toList.map (fun endpoint => .value ⟨[], endpointKey⟩ (.text endpoint)) ++
      settings.timeoutSecs.toList.map fun n => .value ⟨[], timeoutKey⟩ (.integer n))

section Lines

variable {rest : List Char}

/-- A line of a bare key and a value says that the value is under the key. -/
theorem readStatements_line {key : String} {value : List Char} {node : Node}
    (hne : key.toList ≠ []) (hbare : ∀ c ∈ key.toList, isBare c = true)
    (hhead : ∀ c ∈ (value ++ '\n' :: rest).head?, Toml.isBlank c = false)
    (hvalue : ∀ fuel, readValue (fuel + 1) maxDepth (value ++ '\n' :: rest) =
      some (node, '\n' :: rest)) (fuel : Nat) :
    readStatements (fuel + 1) (line key value ++ rest) =
      (readStatements fuel rest).map (.value ⟨[], key⟩ node :: ·) := by
  have hread := readStatement_value hne hbare hhead hvalue
  have hline : line key value ++ rest =
      key.toList ++ ' ' :: '=' :: ' ' :: (value ++ '\n' :: rest) := by
    simp [line]
  obtain ⟨c, others, hcons⟩ := List.exists_cons_of_ne_nil hne
  rw [hcons] at hbare
  rw [String.ofList_toList, hcons, List.cons_append] at hread
  rw [hline, hcons, List.cons_append]
  exact readStatements_cons (.inr (hbare c List.mem_cons_self)) hread fuel

/-- The line for an address is read back as the address, whatever characters it has. -/
theorem readStatements_endpoint (endpoint : String) (fuel : Nat) :
    readStatements (fuel + 1) (line endpointKey (writeString endpoint.toList) ++ rest) =
      (readStatements fuel rest).map (.value ⟨[], endpointKey⟩ (.text endpoint) :: ·) := by
  refine readStatements_line (by decide) (List.all_eq_true.1 (by decide)) ?_ (fun fuel => ?_) fuel
  · intro c hc
    rw [writeString] at hc
    cases hform : formOf endpoint.toList <;> rw [hform] at hc <;> cases hc <;> decide
  · rw [readValue_writeString, String.ofList_toList]

theorem readStatements_timeout (n fuel : Nat) :
    readStatements (fuel + 1) (line timeoutKey (Text.decimal n) ++ rest) =
      (readStatements fuel rest).map (.value ⟨[], timeoutKey⟩ (.integer n) :: ·) := by
  refine readStatements_line (by decide) (List.all_eq_true.1 (by decide)) ?_
    (fun fuel => readValue_decimal _ _ _) fuel
  obtain ⟨c, others, hcons⟩ := List.exists_cons_of_ne_nil (Nat.toDigits_ne_nil (n := n) (b := 10))
  intro d hd
  rw [Text.decimal, hcons] at hd
  cases hd
  have hdigit : c.isDigit = true := by
    refine isDigit_of_mem_decimal (n := n) ?_
    rw [Text.decimal, hcons]
    exact List.mem_cons_self
  rw [Toml.isBlank, Bool.or_eq_false_iff, decide_eq_false_iff_not, decide_eq_false_iff_not]
  constructor
  · rintro rfl
    cases hdigit
  · rintro rfl
    cases hdigit

theorem readStatements_section (fuel : Nat) :
    readStatements (fuel + 1) (['['] ++ sectionKey.toList ++ [']', '\n'] ++ rest) =
      (readStatements fuel rest).map (.header ⟨[], sectionKey⟩ :: ·) := by
  have hread : readStatement ('[' :: (sectionKey.toList ++ ']' :: '\n' :: rest)) =
      some (.header ⟨[], String.ofList sectionKey.toList⟩, '\n' :: rest) :=
    readStatement_header (by decide) (List.all_eq_true.1 (by decide))
  rw [String.ofList_toList] at hread
  exact readStatements_cons (.inl rfl) hread fuel

end Lines

/-- The line for a time, if there is one, is read back as the last one. -/
theorem readStatements_timeouts (timeoutSecs : Option Nat) (fuel : Nat) :
    readStatements (fuel + 2) (timeoutSecs.elim [] fun n => line timeoutKey (Text.decimal n)) =
      some (timeoutSecs.toList.map fun n => .value ⟨[], timeoutKey⟩ (.integer n)) := by
  cases timeoutSecs with
  | none => rfl
  | some n =>
      have hline : readStatements (fuel + 2) (line timeoutKey (Text.decimal n) ++ []) =
          (readStatements (fuel + 1) []).map (.value ⟨[], timeoutKey⟩ (.integer n) :: ·) :=
        readStatements_timeout n (fuel + 1)
      rw [List.append_nil] at hline
      exact hline

/-- The text of settings is read as what it says. -/
theorem readStatements_write (settings : Settings) (fuel : Nat) :
    readStatements (fuel + 4) settings.write = some settings.statements := by
  rw [write, List.append_assoc, readStatements_section, statements]
  have htimeout := readStatements_timeouts settings.timeoutSecs
  cases settings.endpoint with
  | none =>
      rw [Option.elim_none, List.nil_append, htimeout (fuel + 1)]
      rfl
  | some endpoint =>
      rw [Option.elim_some, readStatements_endpoint, htimeout fuel]
      rfl

/-- The table that the statements of settings make. -/
theorem tableOf?_statements (settings : Settings) :
    tableOf? settings.statements =
      some [(sectionKey, .table .declared
        (settings.endpoint.toList.map (fun endpoint => (endpointKey, .text endpoint)) ++
          settings.timeoutSecs.toList.map fun n => (timeoutKey, .integer n)))] := by
  obtain ⟨endpoint, timeoutSecs⟩ := settings
  cases endpoint <;> cases timeoutSecs <;> rfl

/-- The table gives the settings back. -/
theorem ofDocument?_table {settings : Settings} (h : ∀ n ∈ settings.timeoutSecs, n ≤ Text.maxWord) :
    ofDocument? [(sectionKey, .table .declared
        (settings.endpoint.toList.map (fun endpoint => (endpointKey, .text endpoint)) ++
          settings.timeoutSecs.toList.map fun n => (timeoutKey, .integer n)))] =
      some settings := by
  obtain ⟨endpoint, timeoutSecs⟩ := settings
  cases timeoutSecs with
  | none => cases endpoint <;> rfl
  | some n =>
      have hn : n ≤ Text.maxWord := h n rfl
      have hword : wordOf? (.integer n) = some n := by
        have hrange : (0 ≤ (n : Int) && (n : Int) ≤ (Text.maxWord : Int)) = true := by
          simpa using hn
        rw [wordOf?, if_pos hrange]
        rfl
      have hread : ofDocument? [(sectionKey, .table .declared
          ((endpoint.toList.map fun endpoint => (endpointKey, .text endpoint)) ++
            [(timeoutKey, .integer n)]))] =
          ((wordOf? (.integer n)).map some).map fun timeout => ⟨endpoint, timeout⟩ := by
        cases endpoint <;> rfl
      exact hread.trans (by rw [hword]; rfl)

/-- Settings are read back from the text that is written for them. -/
theorem parse?_write {settings : Settings} (h : ∀ n ∈ settings.timeoutSecs, n ≤ Text.maxWord) :
    parse? settings.write = some settings := by
  have hmark : dropMark settings.write = settings.write := rfl
  obtain ⟨fuel, hfuel⟩ : ∃ fuel, settings.write.length + 1 = fuel + 4 := by
    refine ⟨settings.write.length - 3, ?_⟩
    have hlength : 6 ≤ settings.write.length := by
      simp [write, sectionKey]
    omega
  rw [parse?, Toml.parse?, hmark, hfuel, readStatements_write, Option.bind_some,
    tableOf?_statements, Option.bind_some, ofDocument?_table h]

end QueryBridge.Settings
