import QueryBridge.Proofs.View.LineFeeds

/-!
# A preview is faithful and marks every cut

A preview shows the first line of a text, up to sixty characters of it. Either that is all there is,
but for one line ending (`Whole`), or an ellipsis stands for the rest (`Marked`). Which of the two
it is depends on the length of the first line and on whether there is a second one
(`preview_marks_every_cut`). The first line is told from the text and not from its lines
(`Text.Opens`), so carriage returns, empty lines and line feeds at the end are judged by where they
stand in the text.
-/

set_option autoImplicit false

namespace QueryBridge

/-! ## Fronts of a line, and its ending -/

namespace Text

/-- A text is a line with at most one ending. -/
def IsOneLine (text line : List Char) : Prop :=
  text = line ∨ text = line ++ ['\n'] ∨ text = line ++ ['\r', '\n']

/-- The longest front of a text with at most `width` characters. -/
structure LongestFront (width : Nat) (text front : List Char) : Prop where
  isPrefix : front <+: text
  fits : front.length ≤ width
  longest : ∀ other, other <+: text → other.length ≤ width → other.length ≤ front.length

variable {text line row front : List Char} {width : Nat}

theorem longestFront_take (width : Nat) (text : List Char) :
    LongestFront width text (text.take width) where
  isPrefix := List.take_prefix width text
  fits := List.length_take_le width text
  longest := fun other hother hfits => by
    rw [List.length_take]
    exact Nat.le_min.2 ⟨hfits, hother.length_le⟩

/-- A text that fits is its own longest front. -/
theorem LongestFront.eq_of_fits (h : LongestFront width text front) (hfits : text.length ≤ width) :
    front = text :=
  h.isPrefix.eq_of_length_le (h.longest text (List.prefix_refl text) hfits)

/-- A first line with no text behind is the whole text, but for its ending. -/
theorem Opens.isOneLine (h : Opens text row []) : IsOneLine text row := by
  generalize hbehind : ([] : List Char) = behind at h
  cases h with
  | unended => exact .inl rfl
  | feed => exact .inr (.inl (by rw [hbehind]))
  | returnFeed => exact .inr (.inr (by rw [hbehind]))

/-- A line with at most one ending is a first line with no text behind. A carriage return at the end
of the line may turn out to belong to the ending. -/
theorem IsOneLine.exists_opens (h : IsOneLine text line) (hline : '\n' ∉ line) :
    ∃ row, Opens text row [] ∧ row <+: line := by
  rcases h with rfl | rfl | rfl
  · exact ⟨text, .unended hline, List.prefix_refl text⟩
  · exact exists_opens_feed hline []
  · exact ⟨line, .returnFeed hline, List.prefix_refl line⟩

end Text

open Text

namespace View

/-! ## What a preview tells -/

/-- What a preview has no place for: a first line of more than sixty characters, or a second
line. -/
def Overflows (text : List Char) : Prop :=
  60 < ((lines text).headD []).length ∨ 1 < (lines text).length

instance (text : List Char) : Decidable (Overflows text) :=
  inferInstanceAs (Decidable (_ ∨ _))

/-- All of a text is shown, but for one line ending. A carriage return in front of the line feed
belongs to the ending. -/
structure Whole (text shown : List Char) : Prop where
  fits : shown.length ≤ 60
  all : IsOneLine text shown
  ending : Opens text shown []

/-- The longest front of the first line that has at most sixty characters is shown, and an ellipsis
for the rest of the text, which is more than one line ending. -/
def Marked (text shown : List Char) : Prop :=
  ∃ row behind front, Opens text row behind ∧ LongestFront 60 row front ∧ shown = front ++ ['…'] ∧
    front <+: text ∧ ¬ IsOneLine text front

variable {text row behind shown : List Char}

/-- A text has more than its preview can show if its first row is too long or other text is behind
it. -/
theorem overflows_iff (h : Opens text row behind) :
    Overflows text ↔ 60 < row.length ∨ behind ≠ [] := by
  rw [Overflows, h.headD_lines, h.one_lt_length_lines_iff]

/-- What a preview is, told from how the text begins. -/
theorem preview_eq_ite (h : Opens text row behind) :
    preview text = if Overflows text then row.take 60 ++ ['…'] else row := by
  simp only [preview, Bool.or_eq_true, decide_eq_true_eq, h.headD_lines, Overflows, previewWidth]

theorem Whole.not_overflows (h : Whole text shown) : ¬ Overflows text := by
  rw [overflows_iff h.ending, not_or]
  exact ⟨Nat.not_lt.2 h.fits, fun hbehind => hbehind rfl⟩

/-- A text that does not overflow is its first row, which fits. -/
theorem whole_of_not_overflows (h : Opens text row behind) (hnot : ¬ Overflows text) :
    Whole text row := by
  rw [overflows_iff h, not_or, Nat.not_lt, Ne, Classical.not_not] at hnot
  obtain ⟨hfits, rfl⟩ := hnot
  exact ⟨hfits, h.isOneLine, h⟩

theorem Marked.overflows (h : Marked text shown) : Overflows text := by
  obtain ⟨row, behind, front, hopens, hfront, -, -, hmore⟩ := h
  by_contra hnot
  -- A first line that fits is its own longest front, and no text is left behind it.
  have hwhole := whole_of_not_overflows hopens hnot
  rw [hfront.eq_of_fits hwhole.fits] at hmore
  exact hmore hwhole.all

/-- Of a text that overflows, the longest front of its first row is shown, with a mark. -/
theorem marked_of_overflows (h : Opens text row behind) (hover : Overflows text) :
    Marked text (row.take 60 ++ ['…']) := by
  have hfront := longestFront_take 60 row
  refine ⟨row, behind, row.take 60, h, hfront, rfl, hfront.isPrefix.trans h.row_isPrefix, ?_⟩
  intro hone
  -- Were the front one line, then the first line would be within it, and nothing would be cut.
  have hfree : '\n' ∉ row.take 60 := fun hin => h.feed_not_mem (List.mem_of_mem_take hin)
  obtain ⟨first, hfirst, hwithin⟩ := hone.exists_opens hfree
  rw [overflows_iff hfirst] at hover
  rcases hover with hlong | hbehind
  · exact absurd (hwithin.length_le.trans hfront.fits) (Nat.not_le.2 hlong)
  · exact hbehind rfl

/-! ## Every preview -/

/-- What can be told of a text from what is shown of it. -/
structure Faithful (text shown : List Char) : Prop where
  /-- It is one row of the terminal. -/
  single : '\n' ∉ shown
  narrow : shown.length ≤ 61
  /-- Either nothing is cut, or what is cut is marked, and never both. -/
  told : Whole text shown ∨ Marked text shown
  apart : Whole text shown → ¬ Marked text shown
  /-- The mark is there exactly where the text has a long first line or a second one. -/
  marked_iff : Marked text shown ↔ Overflows text

/-- A preview shows a text as it is, or marks that it was cut. It is cut where the first line has
more than sixty characters, and where a second line follows, be it empty. -/
theorem preview_marks_every_cut (text : String) :
    Faithful text.toList (previewOf text).toList := by
  have hsingle := feed_not_mem_previewOf text
  obtain ⟨row, behind, hopens⟩ := exists_opens text.toList
  have happart {shown : List Char} : Whole text.toList shown → ¬ Marked text.toList shown :=
    fun hwhole hmarked => hwhole.not_overflows hmarked.overflows
  rw [previewOf, String.toList_ofList, preview_eq_ite hopens] at hsingle ⊢
  by_cases hover : Overflows text.toList
  · have hmarked := marked_of_overflows hopens hover
    rw [if_pos hover] at hsingle ⊢
    refine ⟨hsingle, ?_, .inr hmarked, happart, iff_of_true hmarked hover⟩
    rw [List.length_append, List.length_singleton]
    exact Nat.succ_le_succ (List.length_take_le 60 row)
  · have hwhole := whole_of_not_overflows hopens hover
    rw [if_neg hover] at hsingle ⊢
    exact ⟨hsingle, Nat.le_succ_of_le hwhole.fits, .inl hwhole, happart,
      iff_of_false (happart hwhole) hover⟩

/-- A carriage return is part of a line unless a line feed follows, and an empty second line is
one. -/
example : previewOf "SELECT 1\r" = "SELECT 1\r" ∧ previewOf "SELECT 1\r\n" = "SELECT 1" ∧
    previewOf "SELECT 1\n\n" = "SELECT 1…" ∧ previewOf "\n" = "" := by
  decide

end View

end QueryBridge
