/-
  TileEvents.Console.Style
  ────────────────────────
  **STYLED TEXT FOR A TERMINAL.**

  A style is an emphasis and a color, and a terminal is told about it by an
  escape sequence in front of the text and a reset behind it.  A reset within
  the text would end the style early, so the style is opened again after each
  of them.  On a screen without colors a text is left as it is.
-/

namespace TileEvents.Console

/-! ## §1. Styles. -/

/-- How a text stands out apart from its color. -/
inductive Emphasis where
  | bold
  | dimmed
  | italic
  | underline
  deriving DecidableEq

/-- The number a terminal knows an emphasis by. -/
def Emphasis.code : Emphasis → String
  | bold => "1"
  | dimmed => "2"
  | italic => "3"
  | underline => "4"

/-- A color by its parts. -/
structure Color where
  red : UInt8
  green : UInt8
  blue : UInt8
  deriving DecidableEq

/-- The numbers a terminal knows a color by. -/
def Color.codes (c : Color) : List String :=
  ["38", "2", toString c.red, toString c.green, toString c.blue]

/-- An emphasis and a color, either of which may be missing. -/
structure Style where
  emphasis : Option Emphasis
  color : Option Color
  deriving DecidableEq

namespace Style

/-- Map names. -/
def title : Style := ⟨some .underline, some ⟨223, 77, 10⟩⟩

/-- Texts of the map. -/
def mapText : Style := ⟨some .italic, some ⟨102, 208, 250⟩⟩

/-- What the player has to answer, and what can be typed. -/
def prompt : Style := ⟨some .bold, some ⟨220, 180, 40⟩⟩

/-- What happens in the world. -/
def world : Style := ⟨some .italic, some ⟨110, 220, 110⟩⟩

/-- How a command ended. -/
def outcome : Style := ⟨some .italic, some ⟨230, 230, 30⟩⟩

/-- What is switched off. -/
def denied : Style := ⟨some .italic, some ⟨200, 50, 50⟩⟩

/-- What went wrong. -/
def error : Style := ⟨some .bold, some ⟨230, 30, 30⟩⟩

/-- The headings of listings. -/
def heading : Style := ⟨none, some ⟨75, 80, 75⟩⟩

/-- The signs in front of what happens in the world. -/
def sign : Style := ⟨some .dimmed, none⟩

/-! ## §2. Escape sequences. -/

/-- The escape sequence with these numbers. -/
def sequence (codes : List String) : String := "\x1b[" ++ String.intercalate ";" codes ++ "m"

/-- The sequence that ends every style. -/
def reset : String := sequence ["0"]

/-- The sequence that begins a style. -/
def opening (s : Style) : String :=
  sequence ((s.emphasis.map Emphasis.code).toList ++ (s.color.map Color.codes).getD [])

/-- `text` with `opening` put in after each reset. -/
def reopen (opening : List Char) : List Char → List Char
  | [] => []
  | '\x1b' :: '[' :: '0' :: 'm' :: rest =>
    '\x1b' :: '[' :: '0' :: 'm' :: (opening ++ reopen opening rest)
  | c :: rest => c :: reopen opening rest

/-- A text in a style. -/
def paint (s : Style) (text : String) : String :=
  s.opening ++ String.ofList (reopen s.opening.toList text.toList) ++ reset

end Style

/-! ## §3. Spans. -/

/-- A text in a style, or a plain one. -/
structure Span where
  style : Option Style
  text : String
  deriving DecidableEq

namespace Span

/-- A text in no style. -/
def plain (text : String) : Span := ⟨none, text⟩

/-- A text in a style. -/
def styled (style : Style) (text : String) : Span := ⟨some style, text⟩

/-- What is printed of a span, on a screen with or without colors. -/
def render (colored : Bool) (s : Span) : String :=
  match s.style with
  | some style => if colored then style.paint s.text else s.text
  | none => s.text

/-- What is printed of several spans. -/
def renderAll (colored : Bool) (spans : List Span) : String :=
  String.join (spans.map (render colored))

end Span

end TileEvents.Console
