import QueryBridge.Text.Space
import Mathlib.Data.List.Basic

/-!
# Joining the lines of a text

The characters of a line are characters of the text and no line feeds (`mem_of_mem_lines`,
`feed_not_mem_of_mem_lines`), and joining the lines with line feeds gives the text back, but for
carriage returns in front of line feeds and for a line feed at the end (`intercalate_lines`). All of
this is shown for lines whose first one has begun already, since that is what the recursion passes
on.

What a text begins with is said without its lines (`Opens`): it is the first of them, and there is a
second one where text follows (`Opens.lines_eq`, `Opens.one_lt_length_lines_iff`).
-/

set_option autoImplicit false

namespace QueryBridge.Text

/-- A text with each carriage return that stands right before a line feed taken out. -/
def unifyEnds : List Char → List Char
  | [] => []
  | c :: rest =>
    if c = '\r' ∧ rest.head? = some '\n' then unifyEnds rest else c :: unifyEnds rest

/-- A text without the line feed at its end, if there is one. -/
def dropFinalFeed (s : List Char) : List Char :=
  if s.getLast? = some '\n' then s.dropLast else s

variable {line row s t rest : List Char} {c : Char}

theorem unifyEnds_cons_of_ne (hc : c ≠ '\r') : unifyEnds (c :: rest) = c :: unifyEnds rest := by
  rw [unifyEnds, if_neg fun h => hc h.1]

/-- A carriage return and a line feed are one end of a line. -/
theorem unifyEnds_return_feed : unifyEnds ('\r' :: '\n' :: rest) = '\n' :: unifyEnds rest := by
  rw [unifyEnds, if_pos ⟨rfl, rfl⟩, unifyEnds_cons_of_ne (by decide)]

theorem unifyEnds_eq_nil_iff : unifyEnds s = [] ↔ s = [] := by
  induction s with
  | nil => simp [unifyEnds]
  | cons c rest ih =>
      rw [unifyEnds]
      split
      · rename_i h
        have hrest : rest ≠ [] := by
          rintro rfl
          cases h.2
        simp [ih, hrest]
      · simp

/-- A text without line feeds stays as it is, unless a line feed follows it at once. -/
theorem unifyEnds_append (ht : '\n' ∉ t) (hrest : rest.head? ≠ some '\n') :
    unifyEnds (t ++ rest) = t ++ unifyEnds rest := by
  induction t with
  | nil => rfl
  | cons c t ih =>
      rw [List.mem_cons, not_or] at ht
      have hnext : (t ++ rest).head? ≠ some '\n' := by
        cases t with
        | nil => exact hrest
        | cons d t =>
            rintro ⟨⟩
            exact ht.2 List.mem_cons_self
      rw [List.cons_append, unifyEnds, if_neg fun h => hnext h.2, ih ht.2, List.cons_append]

theorem unifyEnds_of_not_mem (h : '\n' ∉ s) : unifyEnds s = s := by
  have happend : unifyEnds (s ++ []) = s ++ unifyEnds [] := unifyEnds_append h (by simp)
  rwa [List.append_nil, unifyEnds, List.append_nil] at happend

/-- A line that a line feed ends loses the carriage return that `closeLine` drops. -/
theorem unifyEnds_closeLine (hline : '\n' ∉ line) :
    unifyEnds (line.reverse ++ '\n' :: rest) = closeLine line ++ '\n' :: unifyEnds rest := by
  cases line with
  | nil => exact unifyEnds_cons_of_ne (by decide)
  | cons c line =>
      rw [List.mem_cons, not_or] at hline
      have hfree : '\n' ∉ line.reverse := fun h => hline.2 (List.mem_reverse.1 h)
      have hnext : (c :: '\n' :: rest).head? ≠ some '\n' := by simpa using Ne.symm hline.1
      rw [List.reverse_cons, List.append_assoc, List.singleton_append, unifyEnds_append hfree hnext]
      by_cases hreturn : c = '\r'
      · subst hreturn
        rw [unifyEnds_return_feed]
        rfl
      · rw [unifyEnds_cons_of_ne hreturn, unifyEnds_cons_of_ne (by decide), closeLine]
        · simp
        · simpa using hreturn

theorem dropFinalFeed_of_not_mem (h : '\n' ∉ s) : dropFinalFeed s = s := by
  rw [dropFinalFeed, if_neg fun hlast => h (List.mem_of_getLast? hlast)]

theorem dropFinalFeed_feed : dropFinalFeed (s ++ ['\n']) = s := by
  rw [dropFinalFeed, List.getLast?_concat, if_pos rfl, List.dropLast_concat]

/-- What is at the end of a text is at the end of what follows its first part. -/
theorem dropFinalFeed_append (h : t ≠ []) : dropFinalFeed (s ++ t) = s ++ dropFinalFeed t := by
  have hlast : (s ++ t).getLast? = t.getLast? := by
    rw [List.getLast?_append_of_ne_nil s h]
  rw [dropFinalFeed, dropFinalFeed, hlast]
  split
  · exact List.dropLast_append_of_ne_nil h
  · rfl

/-! ## The characters of a line -/

theorem closeLine_subset : closeLine line ⊆ line := by
  intro c hc
  unfold closeLine at hc
  split at hc
  · exact List.mem_cons_of_mem _ (List.mem_reverse.1 hc)
  · exact List.mem_reverse.1 hc

theorem feed_not_mem_of_mem_linesFrom (hline : '\n' ∉ line) (h : row ∈ linesFrom line s) :
    '\n' ∉ row := by
  induction s generalizing line with
  | nil =>
      rw [linesFrom] at h
      split at h
      · cases h
      · rw [List.mem_singleton.1 h]
        simpa using hline
  | cons c rest ih =>
      rw [linesFrom] at h
      split at h
      · rcases List.mem_cons.1 h with rfl | hlater
        · exact fun hfeed => hline (closeLine_subset hfeed)
        · exact ih List.not_mem_nil hlater
      · rename_i hc
        exact ih (List.not_mem_cons_of_ne_of_not_mem (Ne.symm hc) hline) h

theorem feed_not_mem_of_mem_lines (h : row ∈ lines s) : '\n' ∉ row :=
  feed_not_mem_of_mem_linesFrom List.not_mem_nil h

/-- The characters of lines are those of the text. -/
theorem mem_of_mem_linesFrom (h : c ∈ row) :
    ∀ {line : List Char}, row ∈ linesFrom line s → c ∈ line ∨ c ∈ s := by
  -- The line that has begun is general: it grows until a line feed ends it.
  induction s with
  | nil =>
      intro line hrow
      rw [linesFrom] at hrow
      split at hrow
      · cases hrow
      · rw [List.mem_singleton.1 hrow] at h
        exact .inl (List.mem_reverse.1 h)
  | cons d rest ih =>
      intro line hrow
      rw [linesFrom] at hrow
      split at hrow
      · rcases List.mem_cons.1 hrow with heq | hlater
        · rw [heq] at h
          exact .inl (closeLine_subset h)
        · exact .inr (List.mem_cons_of_mem d ((ih hlater).resolve_left List.not_mem_nil))
      · rcases ih hrow with hline | hrest
        · rcases List.mem_cons.1 hline with rfl | hline
          · exact .inr List.mem_cons_self
          · exact .inl hline
        · exact .inr (List.mem_cons_of_mem d hrest)

/-- The characters of a line are characters of the text. -/
theorem mem_of_mem_lines (hrow : row ∈ lines s) (h : c ∈ row) : c ∈ s :=
  (mem_of_mem_linesFrom h hrow).resolve_left List.not_mem_nil

/-! ## Lines joined -/

theorem linesFrom_eq_nil_iff : linesFrom line s = [] ↔ line = [] ∧ s = [] := by
  induction s generalizing line with
  | nil => simp [linesFrom]
  | cons c rest ih =>
      rw [linesFrom]
      split
      · simp
      · simp [ih]

/-- Joining the lines of a text gives it back, but for the ends of lines and a line feed at its
end. -/
theorem intercalate_linesFrom (hline : '\n' ∉ line) :
    List.intercalate ['\n'] (linesFrom line s) = dropFinalFeed (unifyEnds (line.reverse ++ s)) := by
  -- The line that has begun is general: it grows until a line feed ends it.
  induction s generalizing line with
  | nil =>
      have hfree : '\n' ∉ line.reverse := fun h => hline (List.mem_reverse.1 h)
      rw [List.append_nil, unifyEnds_of_not_mem hfree, dropFinalFeed_of_not_mem hfree, linesFrom]
      cases line with
      | nil => rfl
      | cons c line => simp [List.intercalate]
  | cons c rest ih =>
      rw [linesFrom]
      split
      · rename_i hfeed
        subst hfeed
        rw [unifyEnds_closeLine hline]
        have hlater : List.intercalate ['\n'] (linesFrom [] rest) =
            dropFinalFeed (unifyEnds rest) :=
          ih List.not_mem_nil
        -- A line feed at the very end is dropped; any other one joins two lines.
        cases hrest : linesFrom [] rest with
        | nil =>
            obtain ⟨-, rfl⟩ := linesFrom_eq_nil_iff.1 hrest
            rw [unifyEnds, dropFinalFeed_feed, List.intercalate_singleton]
        | cons next others =>
            have hne : unifyEnds rest ≠ [] := by
              rw [Ne, unifyEnds_eq_nil_iff]
              rintro rfl
              cases hrest
            rw [hrest] at hlater
            rw [List.intercalate_cons_cons, hlater, ← dropFinalFeed_append hne, List.append_assoc]
            rfl
      · rename_i hc
        rw [ih (List.not_mem_cons_of_ne_of_not_mem (Ne.symm hc) hline)]
        simp

/-- Joining the lines of a text with line feeds gives the text back, with line feeds for the ends of
its lines and without one at its end. -/
theorem intercalate_lines (s : List Char) :
    List.intercalate ['\n'] (lines s) = dropFinalFeed (unifyEnds s) :=
  intercalate_linesFrom List.not_mem_nil

/-! ## The first line -/

/-- How a text begins: with a row, the line feed that ends it, and the text behind. A carriage
return right before the line feed belongs to the end of the row. A text without line feeds is one
row. -/
inductive Opens : List Char → List Char → List Char → Prop
  | unended {row : List Char} (hrow : '\n' ∉ row) : Opens row row []
  | feed {row behind : List Char} (hrow : '\n' ∉ row) (hlast : row.getLast? ≠ some '\r') :
      Opens (row ++ '\n' :: behind) row behind
  | returnFeed {row behind : List Char} (hrow : '\n' ∉ row) :
      Opens (row ++ '\r' :: '\n' :: behind) row behind

/-- What stands in front of the first line feed is the row, but for a carriage return at its end. -/
theorem exists_opens_feed (ht : '\n' ∉ t) (behind : List Char) :
    ∃ row, Opens (t ++ '\n' :: behind) row behind ∧ row <+: t := by
  by_cases hlast : t.getLast? = some '\r'
  · obtain ⟨row, rfl⟩ := List.getLast?_eq_some_iff.1 hlast
    refine ⟨row, ?_, List.prefix_append row _⟩
    rw [List.append_assoc]
    exact .returnFeed fun hin => ht (List.mem_append_left _ hin)
  · exact ⟨t, .feed ht hlast, List.prefix_refl t⟩

/-- Every text begins in one of these ways. -/
theorem exists_opens (s : List Char) : ∃ row behind, Opens s row behind := by
  by_cases h : '\n' ∈ s
  · obtain ⟨front, behind, rfl, hfront⟩ := List.eq_append_cons_of_mem h
    obtain ⟨row, hrow, -⟩ := exists_opens_feed hfront behind
    exact ⟨row, behind, hrow⟩
  · exact ⟨s, [], .unended h⟩

/-- Characters that are no line feeds join the line that has begun. -/
theorem linesFrom_append (ht : '\n' ∉ t) :
    linesFrom line (t ++ rest) = linesFrom (t.reverse ++ line) rest := by
  induction t generalizing line with
  | nil => rfl
  | cons c t ih =>
      rw [List.mem_cons, not_or] at ht
      rw [List.cons_append, linesFrom, if_neg (Ne.symm ht.1), ih ht.2, List.reverse_cons,
        List.append_assoc, List.singleton_append]

/-- Text up to a line feed is a line, and the others are those behind it. -/
theorem lines_append_feed (ht : '\n' ∉ t) :
    lines (t ++ '\n' :: rest) = closeLine t.reverse :: lines rest := by
  rw [lines, linesFrom_append ht, List.append_nil, linesFrom, if_pos rfl, lines]

theorem closeLine_reverse (h : row.getLast? ≠ some '\r') : closeLine row.reverse = row := by
  rw [← List.head?_reverse] at h
  unfold closeLine
  split
  · rename_i hback
    rw [hback] at h
    exact absurd rfl h
  · exact List.reverse_reverse row

section FirstLine

variable {behind : List Char}

/-- The row that a text begins with is its first line, and the others are those of the text behind.
The empty text begins with an empty row and has no lines. -/
theorem Opens.lines_eq (h : Opens s row behind) :
    lines s = row :: lines behind ∨ s = [] ∧ row = [] ∧ behind = [] := by
  cases h with
  | unended hrow =>
      have hlines : lines (row ++ []) = linesFrom (row.reverse ++ []) [] := linesFrom_append hrow
      rw [List.append_nil, List.append_nil, linesFrom] at hlines
      cases row with
      | nil => exact .inr ⟨rfl, rfl, rfl⟩
      | cons c row =>
          left
          rw [hlines]
          simp [lines, linesFrom]
  | feed hrow hlast =>
      left
      rw [lines_append_feed hrow, closeLine_reverse hlast]
  | returnFeed hrow =>
      have hfront : '\n' ∉ row ++ ['\r'] := by simpa using hrow
      left
      rw [List.append_cons, lines_append_feed hfront, List.reverse_concat, closeLine,
        List.reverse_reverse]

/-- The row that opens a text is its first line. -/
theorem Opens.headD_lines (h : Opens s row behind) : (lines s).headD [] = row := by
  rcases h.lines_eq with hlines | ⟨rfl, rfl, -⟩
  · rw [hlines, List.headD_cons]
  · rfl

/-- There is another line exactly where something is behind the first one. -/
theorem Opens.one_lt_length_lines_iff (h : Opens s row behind) :
    1 < (lines s).length ↔ behind ≠ [] := by
  rcases h.lines_eq with hlines | ⟨rfl, -, rfl⟩
  · rw [hlines, List.length_cons, Nat.lt_add_left_iff_pos, List.length_pos_iff, Ne, lines,
      linesFrom_eq_nil_iff, and_iff_right rfl]
  · simp [lines, linesFrom]

/-- No line feed is in the row that a text begins with. -/
theorem Opens.feed_not_mem (h : Opens s row behind) : '\n' ∉ row := by
  cases h with
  | unended hrow => exact hrow
  | feed hrow => exact hrow
  | returnFeed hrow => exact hrow

/-- The row that opens a text stands at its front. -/
theorem Opens.row_isPrefix (h : Opens s row behind) : row <+: s := by
  cases h with
  | unended => exact List.prefix_refl row
  | feed => exact List.prefix_append row _
  | returnFeed => exact List.prefix_append row _

end FirstLine

end QueryBridge.Text
