import QueryBridge.Proofs.Text.Spelling
import QueryBridge.Repl.Screen

/-!
# Deleting colours

Colours are control sequences around the spans of a row. Deleting these sequences (`Style.erased`)
takes a text with colours to the text without them, whatever stands behind it (`Style.Fades`), and
texts that fade may be joined. A span fades if no escape character is in its own text
(`Span.fades`), and so do rows, emissions and all other output (`Output.fades`). The sequence that
clears a prompt is none for a colour, so it stays (`fades_clearPrompt`).
-/

set_option autoImplicit false

namespace QueryBridge

open QueryBridge.Text (decimal span_append all_isDigit_decimal)

/-! ## Control sequences -/

/-- The character that begins a control sequence. -/
def escape : Char := '\x1b'

/-- A text without escape characters. -/
def EscapeFree (s : String) : Prop :=
  escape ∉ s.toList

instance (s : String) : Decidable (EscapeFree s) :=
  inferInstanceAs (Decidable (escape ∉ s.toList))

namespace Style

/-- The number of characters that set a graphic rendition together with an escape character in front
of them: a bracket, digits and a letter. It is zero for other characters. -/
def renditionLength : List Char → Nat
  | '[' :: rest =>
    let digits := (rest.takeWhile Char.isDigit).length
    if 0 < digits && (rest.drop digits).head? = some 'm' then digits + 2 else 0
  | _ => 0

/-- A text without the sequences that set a graphic rendition. The first `skip` characters belong to
one. -/
def erasedFrom (skip : Nat) : List Char → List Char
  | [] => []
  | c :: rest =>
    match skip with
    | skip + 1 => erasedFrom skip rest
    | 0 =>
      if c = escape && 0 < renditionLength rest then erasedFrom (renditionLength rest) rest
      else c :: erasedFrom 0 rest

/-- A text without the sequences that set a graphic rendition. -/
def erased (s : List Char) : List Char :=
  erasedFrom 0 s

/-- Deleting colours makes one text of another, whatever stands behind it. -/
def Fades (colored plain : List Char) : Prop :=
  ∀ rest, erased (colored ++ rest) = plain ++ erased rest

variable {s colored plain : List Char}

theorem erasedFrom_append (front rest : List Char) :
    erasedFrom front.length (front ++ rest) = erasedFrom 0 rest := by
  induction front with
  | nil => rfl
  | cons c front ih => exact ih

/-- Erasing the color of a text that fades leaves the plain text. -/
theorem Fades.erased_eq (h : Fades colored plain) : erased colored = plain := by
  have hnil : erased [] = [] := rfl
  have hall := h []
  rwa [List.append_nil, hnil, List.append_nil] at hall

theorem fades_nil : Fades [] [] :=
  fun _ => rfl

/-- Texts that fade can be joined, since no sequence reaches over their border. -/
theorem Fades.append {later shown : List Char} (hfirst : Fades colored plain)
    (hlater : Fades later shown) : Fades (colored ++ later) (plain ++ shown) := by
  intro rest
  rw [List.append_assoc, hfirst, hlater, List.append_assoc]

theorem fades_flatMap {α : Type} {first second : α → List Char} {items : List α}
    (h : ∀ x ∈ items, Fades (first x) (second x)) :
    Fades (items.flatMap first) (items.flatMap second) := by
  induction items with
  | nil => exact fades_nil
  | cons x items ih =>
      rw [List.flatMap_cons, List.flatMap_cons]
      exact (h x List.mem_cons_self).append (ih fun y hy => h y (List.mem_cons_of_mem x hy))

/-- A text without escape characters stays as it is. -/
theorem fades_of_not_mem (h : escape ∉ s) : Fades s s := by
  intro rest
  induction s with
  | nil => rfl
  | cons c s ih =>
      -- No sequence begins in the text, whatever stands behind it.
      have hc : ¬ (c = escape && 0 < renditionLength (s ++ rest)) = true := by
        rintro hboth
        rw [Bool.and_eq_true, decide_eq_true_iff] at hboth
        exact h (hboth.1 ▸ List.mem_cons_self)
      rw [List.cons_append, erased, erasedFrom, if_neg hc]
      exact congrArg (c :: ·) (ih fun hin => h (List.mem_cons_of_mem c hin))

/-- A sequence that sets a rendition ends behind its number. -/
theorem renditionLength_decimal (code : Nat) (rest : List Char) :
    renditionLength ('[' :: (decimal code ++ 'm' :: rest)) = (decimal code).length + 2 := by
  -- The run of digits ends with the letter, even if digits stand behind that.
  have hletter : ∀ c ∈ ('m' :: rest).head?, c.isDigit = false := by
    rintro c ⟨⟩
    rfl
  have hdigits : (decimal code ++ 'm' :: rest).takeWhile Char.isDigit = decimal code :=
    (span_append (List.all_eq_true.1 (all_isDigit_decimal code)) hletter).1
  have hne : 0 < (decimal code).length := List.length_pos_iff.2 Nat.toDigits_ne_nil
  rw [renditionLength, hdigits, List.drop_left]
  simp [hne]

/-- The sequence of a graphic rendition is deleted. -/
theorem fades_graphicRendition (code : Nat) : Fades (graphicRendition code) [] := by
  intro rest
  have hlength := renditionLength_decimal code rest
  have hsequence : graphicRendition code ++ rest =
      escape :: ('[' :: (decimal code ++ ['m']) ++ rest) := rfl
  have htail : '[' :: (decimal code ++ ['m']) ++ rest = '[' :: (decimal code ++ 'm' :: rest) := by
    simp
  have htaken : (decimal code).length + 2 = ('[' :: (decimal code ++ ['m'])).length := by
    simp
  rw [hsequence, erased, erasedFrom, htail, hlength, if_pos (by simp), ← htail, htaken,
    erasedFrom_append]
  rfl

end Style

open Style

/-- The sequence that clears a prompt is no rendition, so it stays. -/
theorem fades_clearPrompt : Fades Emission.clearPrompt Emission.clearPrompt :=
  fun _ => rfl

/-! ## Rows and output -/

/-- A span without escapes in its text has no sequences but those of its style. -/
theorem Span.fades {span : Span} (h : EscapeFree span.text) :
    Fades (span.render true) (span.render false) := by
  have htext : Fades span.text.toList span.text.toList := fades_of_not_mem h
  obtain ⟨style, text⟩ := span
  cases style with
  | none => exact htext
  | some style =>
      have hcodes : ∀ codes : List Nat, Fades (codes.flatMap graphicRendition) [] := by
        intro codes
        have hnone : codes.flatMap (fun _ => ([] : List Char)) = [] := by simp
        rw [← hnone]
        exact fades_flatMap fun code _ => fades_graphicRendition code
      have hall := ((hcodes style.openCodes).append htext).append (hcodes style.closeCodes)
      rwa [List.nil_append, List.append_nil] at hall

namespace Line

/-- No escape character is in the texts of a row. -/
def Unescaped (line : Line) : Prop :=
  ∀ span ∈ line, EscapeFree span.text

/-- No escape character is in the texts of rows. -/
def AllUnescaped (lines : List Line) : Prop :=
  ∀ line ∈ lines, line.Unescaped

theorem fades {line : Line} (h : line.Unescaped) : Fades (render true line) (render false line) :=
  fades_flatMap fun span hspan => Span.fades (h span hspan)

theorem fades_flatMap_ending {lines : List Line} {ending : List Char} (hending : escape ∉ ending)
    (h : AllUnescaped lines) :
    Fades (lines.flatMap fun line => render true line ++ ending)
      (lines.flatMap fun line => render false line ++ ending) :=
  fades_flatMap fun line hline => (fades (h line hline)).append (fades_of_not_mem hending)

theorem fades_renderAll {lines : List Line} (h : AllUnescaped lines) :
    Fades (renderAll true lines) (renderAll false lines) :=
  fades_flatMap_ending (by decide) h

end Line

/-- No escape character is in the texts of an emission or in its prompt. -/
structure Emission.Unescaped (emission : Emission) : Prop where
  lines : Line.AllUnescaped emission.lines
  prompt : ∀ message ∈ emission.prompt, EscapeFree message

/-- An emission under a prompt begins with the sequence that clears the prompt, and what follows
fades. -/
theorem Emission.Unescaped.exists_fades {emission : Emission} (h : emission.Unescaped)
    {message : String} (hprompt : emission.prompt = some message) :
    ∃ colored plain, emission.render true = clearPrompt ++ colored ∧
      emission.render false = clearPrompt ++ plain ∧ Fades colored plain := by
  have hcopy : (promptLine message).Unescaped := by
    have hmessage : EscapeFree message := h.prompt message hprompt
    simp +decide [promptLine, Line.Unescaped, Style.paint, Span.plain, hmessage]
  have hending : escape ∉ ['\r', '\n'] := by decide
  have hrows := Line.fades_flatMap_ending hending h.lines
  refine ⟨_, _, ?_, ?_, hrows.append (Line.fades hcopy)⟩
  · rw [render, hprompt]
    exact List.append_assoc _ _ _
  · rw [render, hprompt]
    exact List.append_assoc _ _ _

/-- An emission without escapes in its texts is, with its color erased, the emission without
color. -/
theorem Emission.fades {emission : Emission} (h : emission.Unescaped) :
    Fades (emission.render true) (emission.render false) := by
  cases hprompt : emission.prompt with
  | none =>
      have hrender : ∀ color, emission.render color = Line.renderAll color emission.lines := by
        intro color
        rw [render, hprompt]
      rw [hrender, hrender]
      exact Line.fades_renderAll h.lines
  | some message =>
      obtain ⟨colored, plain, hcolored, hplain, hfades⟩ := h.exists_fades hprompt
      rw [hcolored, hplain]
      exact fades_clearPrompt.append hfades

namespace Output

/-- No escape character is in the texts of an output. -/
def Unescaped : Output → Prop
  | .screen emission => emission.Unescaped
  | .out lines | .err lines => Line.AllUnescaped lines

/-- What outputs put on the screen of the view, on standard output beside it, and on standard
error. -/
structure Streams where
  screen : List Char
  out : List Char
  err : List Char
  deriving DecidableEq, Repr

/-- What an output puts on the screen of the view. -/
def screenText (color : Bool) : Output → List Char
  | .screen emission => emission.render color
  | .out _ | .err _ => []

/-- What an output puts on standard output beside the view. -/
def printText (color : Bool) : Output → List Char
  | .out lines => Line.renderAll color lines
  | .screen _ | .err _ => []

/-- What an output puts on standard error. -/
def complaintText (color : Bool) : Output → List Char
  | .err lines => Line.renderAll color lines
  | .screen _ | .out _ => []

/-- The text of outputs. -/
def streams (color : Bool) (output : List Output) : Streams :=
  ⟨output.flatMap (screenText color), output.flatMap (printText color),
    output.flatMap (complaintText color)⟩

/-- Text without the sequences that set a graphic rendition. -/
def Streams.erased (streams : Streams) : Streams :=
  ⟨Style.erased streams.screen, Style.erased streams.out, Style.erased streams.err⟩

/-- What an output writes to the screen without color is what remains of it with color. -/
theorem fades_screenText {output : Output} (h : output.Unescaped) :
    Fades (screenText true output) (screenText false output) := by
  cases output with
  | screen emission => exact Emission.fades h
  | out lines => exact fades_nil
  | err lines => exact fades_nil

theorem fades_printText {output : Output} (h : output.Unescaped) :
    Fades (printText true output) (printText false output) := by
  cases output with
  | screen emission => exact fades_nil
  | out lines => exact Line.fades_renderAll h
  | err lines => exact fades_nil

theorem fades_complaintText {output : Output} (h : output.Unescaped) :
    Fades (complaintText true output) (complaintText false output) := by
  cases output with
  | screen emission => exact fades_nil
  | out lines => exact fades_nil
  | err lines => exact Line.fades_renderAll h

/-- Deleting colours from output gives the output without colours. -/
theorem erased_streams {output : List Output} (h : ∀ piece ∈ output, piece.Unescaped) :
    (streams true output).erased = streams false output := by
  rw [streams, Streams.erased, streams,
    (fades_flatMap fun piece hpiece => fades_screenText (h piece hpiece)).erased_eq,
    (fades_flatMap fun piece hpiece => fades_printText (h piece hpiece)).erased_eq,
    (fades_flatMap fun piece hpiece => fades_complaintText (h piece hpiece)).erased_eq]

end Output

end QueryBridge
