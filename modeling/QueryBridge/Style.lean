import QueryBridge.Text.Numeral

/-!
# Styled text

What the program shows is made of spans, each with a style or none. Colours are
applied only when a span is rendered, so they cannot change what is shown: the
text of a span stands unchanged between the control sequences of its style.
-/

set_option autoImplicit false

namespace QueryBridge

/-- The meaning of a piece of text. -/
inductive Style where
  | header | label | value | secondary | success | error | warning | command | code | hint | version
  deriving DecidableEq, Repr

namespace Style

/-- The select-graphic-rendition parameters in front of a text. -/
def openCodes : Style → List Nat
  | .header => [1]
  | .label | .secondary | .version => [2]
  | .value => [36]
  | .success | .command => [32]
  | .warning | .code => [33]
  | .error => [1, 31]
  | .hint => [3, 2]

/-- The select-graphic-rendition parameters behind a text. -/
def closeCodes : Style → List Nat
  | .header | .label | .secondary | .version => [0]
  | .value | .success | .command | .warning | .code => [39]
  | .error => [39, 0]
  | .hint => [0, 0]

end Style

/-- The control sequence that sets one graphic rendition. -/
def graphicRendition (code : Nat) : List Char :=
  '\x1b' :: '[' :: Text.decimal code ++ ['m']

/-- A piece of text in one style. -/
structure Span where
  style : Option Style
  text : String
  deriving DecidableEq, Repr

/-- A row of the terminal. -/
abbrev Line := List Span

namespace Span

/-- Text without a style. -/
def plain (text : String) : Span := ⟨none, text⟩

/-- The mark behind a setting that is not set. -/
def defaultMarker : Span := ⟨some .secondary, "(default)"⟩

/-- The characters of a span, with or without colours. -/
def render (color : Bool) (span : Span) : List Char :=
  match color, span.style with
  | true, some style =>
    style.openCodes.flatMap graphicRendition ++ span.text.toList ++
      style.closeCodes.flatMap graphicRendition
  | _, _ => span.text.toList

end Span

/-- Text in a style. -/
def Style.paint (style : Style) (text : String) : Span := ⟨some style, text⟩

@[simp] theorem Style.paint_inj {style other : Style} {text message : String} :
    style.paint text = other.paint message ↔ style = other ∧ text = message := by
  simp [Style.paint]

@[simp] theorem Style.paint_ne_plain (style : Style) (text message : String) :
    style.paint text ≠ .plain message := by
  simp [Style.paint, Span.plain]

namespace Line

/-- A row of one span without a style. -/
def plain (text : String) : Line := [Span.plain text]

/-- The empty row. -/
def empty : Line := []

/-- The characters of a row. -/
def render (color : Bool) (line : Line) : List Char :=
  line.flatMap (Span.render color)

/-- The characters of rows that each end in a line feed. -/
def renderAll (color : Bool) (lines : List Line) : List Char :=
  lines.flatMap fun line => render color line ++ ['\n']

end Line

end QueryBridge
