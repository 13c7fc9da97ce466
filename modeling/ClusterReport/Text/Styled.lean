/-
**Styled text.**

Text is laid out as spans.  A span is plain text, a span in a style, or two spans side by side.
With color every style wraps its span in a pair of control sequences; without color a span is its
text and nothing else.

Main definitions:

* `ClusterReport.Text.Style` — the styles with their control sequences;
* `ClusterReport.Text.Span`, `ClusterReport.Text.Line` — styled text;
* `ClusterReport.Text.Span.text` — the text of a span without its styles;
* `ClusterReport.Text.Line.render` — the text of a line, with or without color.

Main results:

* `ClusterReport.Text.Span.render_plain` — without color a span is its text.
-/

import ClusterReport.Text.Pad

set_option relaxedAutoImplicit false
set_option autoImplicit false

namespace ClusterReport.Text

/-- How a span is shown. -/
inductive Style where
  | bold
  | underline
  | red
  | yellow
  | blue
  | magenta
deriving DecidableEq

def Style.opening : Style → String
  | bold => "\x1b[1m"
  | underline => "\x1b[4m"
  | red => "\x1b[31m"
  | yellow => "\x1b[33m"
  | blue => "\x1b[34m"
  | magenta => "\x1b[35m"

def Style.closing : Style → String
  | bold => "\x1b[0m"
  | underline => "\x1b[0m"
  | _ => "\x1b[39m"

/-- A text wrapped in the control sequences of a style. -/
def Style.wrap (s : Style) (text : String) : String := s.opening ++ text ++ s.closing

/-- A piece of text in its styles. -/
inductive Span where
  | plain (text : String)
  | styled (style : Style) (inner : Span)
  | beside (first second : Span)
deriving DecidableEq

namespace Span

def bold (text : String) : Span := .styled .bold (.plain text)

/-- The text of a span without its styles. -/
def text : Span → String
  | plain s => s
  | styled _ inner => inner.text
  | beside a b => a.text ++ b.text

/-- The text of a span, with or without color. -/
def render (color : Bool) : Span → String
  | plain s => s
  | styled style inner => if color then style.wrap (inner.render color) else inner.render color
  | beside a b => a.render color ++ b.render color

/-- Without color a span is its text. -/
@[simp] theorem render_plain (s : Span) : s.render false = s.text := by
  induction s with
  | plain s => rfl
  | styled style inner ih => simpa [render, text] using ih
  | beside a b iha ihb => simp [render, text, iha, ihb]

end Span

/-- Spans one behind the other. -/
abbrev Line := List Span

namespace Line

/-- The text of a line without its styles and its end. -/
def text (l : Line) : String := String.join (l.map Span.text)

/-- The text of a line, without its end. -/
def render (color : Bool) (l : Line) : String := String.join (l.map (Span.render color))

/-- Without color a line is its text. -/
@[simp] theorem render_plain (l : Line) : l.render false = l.text :=
  congrArg String.join (List.map_congr_left fun s _ => s.render_plain)

theorem text_cons (s : Span) (l : Line) : Line.text (s :: l) = s.text ++ Line.text l :=
  String.join_cons

theorem render_cons (color : Bool) (s : Span) (l : Line) :
    Line.render color (s :: l) = s.render color ++ Line.render color l := String.join_cons

@[simp] theorem render_singleton (color : Bool) (s : Span) :
    Line.render color [s] = s.render color :=
  (render_cons color s []).trans String.append_empty

/-- The cells of a line with a separator between them. -/
def join (separator : Span) (cells : List Span) : Line := cells.intersperse separator

/-- A title centred between tildes. -/
def heading (width : Nat) (title : String) : Line :=
  [.bold (surround '~' width (" " ++ title ++ " "))]

end Line

/-- The text of some lines, each with its end. -/
def renderLines (color : Bool) (ls : List Line) : String :=
  String.join (ls.map fun l => l.render color ++ "\n")

theorem renderLines_cons (color : Bool) (l : Line) (ls : List Line) :
    renderLines color (l :: ls) = l.render color ++ "\n" ++ renderLines color ls :=
  String.join_cons

theorem renderLines_append (color : Bool) (first second : List Line) :
    renderLines color (first ++ second) = renderLines color first ++ renderLines color second := by
  rw [renderLines, List.map_append, String.join_append]
  rfl

theorem renderLines_flatMap {α : Type} (color : Bool) (lines : α → List Line) (items : List α) :
    renderLines color (items.flatMap lines) =
      String.join (items.map fun item => renderLines color (lines item)) := by
  induction items with
  | nil => rfl
  | cons item rest ih =>
      rw [List.flatMap_cons, renderLines_append, ih, List.map_cons, String.join_cons]

end ClusterReport.Text
