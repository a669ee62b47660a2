/-!
# Styled text

Text for a terminal. Without colour the styles leave no trace; with it every styled span, an empty
one too, is wrapped in escape sequences.
-/

namespace Calculator

inductive Style where
  | plain
  | bold
  | error
  | warning
deriving DecidableEq, Repr

structure Span where
  style : Style
  text : String
deriving DecidableEq, Repr

namespace Style

def opening : Style → String
  | .plain => ""
  | .bold => "\x1b[1m"
  | .error => "\x1b[1m\x1b[31m"
  | .warning => "\x1b[1m\x1b[35m"

def closing : Style → String
  | .plain => ""
  | _ => "\x1b[0m"

end Style

def Span.render (color : Bool) (span : Span) : String :=
  if color then span.style.opening ++ span.text ++ span.style.closing else span.text

def Span.plain (text : String) : Span :=
  ⟨.plain, text⟩

def renderSpans (color : Bool) (spans : List Span) : String :=
  String.join (spans.map (·.render color))

end Calculator
