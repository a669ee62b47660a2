import Calculator.Token.Cursor

/-!
# Token streams

All that can be read from a source from some place on: its tokens, and then its end or the first
lexical error. An error keeps the cursor behind it, so that reading can go on there.
-/

namespace Calculator

inductive Tokens where
  | finish (position : Nat)
  | fail (error : LexError) (resume : Cursor)
  | cons (token : Token) (ahead : Tokens)
deriving DecidableEq

namespace Cursor

def tokens (cursor : Cursor) : Tokens :=
  match _ : cursor.next with
  | .token token next => .cons token next.tokens
  | .finish next => .finish next.position
  | .fail error next => .fail error next
termination_by cursor.rest.length
decreasing_by exact next_token_lt ‹_›

end Cursor

namespace Tokens

def ofSource (source : String) : Tokens :=
  (Cursor.start source).tokens

def toList : Tokens → List Token
  | .finish _ | .fail .. => []
  | .cons token ahead => token :: ahead.toList

/-- The position of the end, or the error that is met before it. -/
def ending : Tokens → Except LexError Nat
  | .finish position => .ok position
  | .fail error _ => .error error
  | .cons _ ahead => ahead.ending

end Tokens

end Calculator
