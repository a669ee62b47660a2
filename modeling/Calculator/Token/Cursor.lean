import Calculator.Token
import Calculator.Decimal.Literal
import Calculator.Text.Blank
import Calculator.Text.Letter
import Calculator.Text.Lowercase
import Calculator.Text.Runs

/-!
# Reading one token

A cursor is a position in a source and what follows it. Reading skips blanks and takes the longest
number or name, a text up to the next quote, or a single character. A number must be followed by a
blank, an operator, a comma, a closing parenthesis or the end.
-/

namespace Calculator

inductive LexError where
  | unexpected (char : Char) (position : Nat)
  | unclosedText (position : Nat)
  | numberFormat (position length : Nat)
  | invalidNumber (literal : String) (position : Nat)
deriving DecidableEq

namespace LexError

def message : LexError → String
  | .unexpected char position => s!"unexpected '{char}' at position {position}"
  | .unclosedText position => s!"unclosed text starting at position {position}"
  | .numberFormat position _ => s!"invalid number format at position {position}"
  | .invalidNumber literal position => s!"invalid number '{literal}' at position {position}"

def start : LexError → Nat
  | .unexpected _ position | .unclosedText position | .numberFormat position _
  | .invalidNumber _ position => position

/-- The end of the characters at fault in a source of `length` characters: a number that is not
followed as it should takes the character after it along. -/
def stop (length : Nat) : LexError → Nat
  | .unexpected _ position => position + 1
  | .unclosedText _ => length
  | .numberFormat position literal => position + literal + 1
  | .invalidNumber literal position => position + literal.length

end LexError

structure Cursor where
  position : Nat
  rest : List Char
deriving DecidableEq

namespace Cursor

def start (source : String) : Cursor :=
  ⟨0, source.toList⟩

def past (cursor : Cursor) (taken rest : List Char) : Cursor :=
  ⟨cursor.position + taken.length, rest⟩

def skipBlanks (cursor : Cursor) : Cursor :=
  cursor.past (cursor.rest.takeWhile Text.isBlank) (cursor.rest.dropWhile Text.isBlank)

/-- The outcome of reading: a token, the end, or an error, and where reading goes on. -/
inductive Step where
  | token (token : Token) (next : Cursor)
  | finish (next : Cursor)
  | fail (error : LexError) (next : Cursor)
deriving DecidableEq

def isExponentMark (c : Char) : Bool :=
  c == 'e' || c == 'E'

def isSign (c : Char) : Bool :=
  c == '+' || c == '-'

/-- The exponent that continues a number and what follows it. Without a digit after the mark and its
sign there is no exponent. -/
def splitExponent : List Char → List Char × List Char
  | mark :: c :: cs =>
    if isExponentMark mark && Decimal.isDigit c then
      (mark :: c :: cs.takeWhile Decimal.isDigit, cs.dropWhile Decimal.isDigit)
    else if isExponentMark mark && isSign c && cs.head?.any Decimal.isDigit then
      (mark :: c :: cs.takeWhile Decimal.isDigit, cs.dropWhile Decimal.isDigit)
    else ([], mark :: c :: cs)
  | cs => ([], cs)

/-- The longest number at the front of a source. Points are not counted yet. -/
def splitNumber (cs : List Char) : List Char × List Char :=
  let mantissa := cs.takeWhile fun c => Decimal.isDigit c || c == '.'
  let (exponent, rest) := splitExponent (cs.dropWhile fun c => Decimal.isDigit c || c == '.')
  (mantissa ++ exponent, rest)

def isOperatorSymbol (c : Char) : Bool :=
  c == '+' || c == '-' || c == '*' || c == '/' || c == '%'

def mayFollowNumber (c : Char) : Bool :=
  Text.isBlank c || c == ',' || c == ')' || isOperatorSymbol c

def isNameStart (c : Char) : Bool :=
  Text.isLetter c || c == '_'

def isNamePart (c : Char) : Bool :=
  Text.isLetterOrNumeral c || c == '_'

def symbol? : Char → Option Lexeme
  | '+' => some (.operator (.sum .plus))
  | '-' => some (.operator (.sum .minus))
  | '*' => some (.operator (.product .times))
  | '/' => some (.operator (.product .over))
  | '%' => some (.operator (.product .modulo))
  | '(' => some .openParen
  | ')' => some .closeParen
  | ',' => some .comma
  | _ => none

def number (cursor : Cursor) : Step :=
  let (literal, rest) := splitNumber cursor.rest
  let next := cursor.past literal rest
  if rest.head?.all mayFollowNumber then
    match Decimal.read? literal with
    | some decimal =>
      .token ⟨.number (String.ofList literal) (decimal.toBinary64 false), cursor.position⟩ next
    | none => .fail (.invalidNumber (String.ofList literal) cursor.position) next
  else .fail (.numberFormat cursor.position literal.length) next

/-- Reads a text whose opening quote stands before `body`. -/
def text (cursor : Cursor) (body : List Char) : Step :=
  let content := body.takeWhile (· != '"')
  match body.dropWhile (· != '"') with
  | [] => .fail (.unclosedText cursor.position) cursor
  | _ :: rest =>
    .token ⟨.text (String.ofList content), cursor.position⟩
      ⟨cursor.position + content.length + 2, rest⟩

def name (cursor : Cursor) : Step :=
  let spelling := cursor.rest.takeWhile isNamePart
  .token ⟨.name (String.ofList (Text.lower spelling)), cursor.position⟩
    (cursor.past spelling (cursor.rest.dropWhile isNamePart))

def read (cursor : Cursor) (c : Char) (cs : List Char) : Step :=
  if Decimal.isDigit c then cursor.number
  else if c = '"' then cursor.text cs
  else if isNameStart c then cursor.name
  else
    match symbol? c with
    | some lexeme => .token ⟨lexeme, cursor.position⟩ ⟨cursor.position + 1, cs⟩
    | none => .fail (.unexpected c cursor.position) cursor

def next (cursor : Cursor) : Step :=
  let cursor := cursor.skipBlanks
  match cursor.rest with
  | [] => .finish cursor
  | c :: cs => cursor.read c cs

/-! ## Progress -/

theorem splitExponent_append (cs : List Char) :
    (splitExponent cs).1 ++ (splitExponent cs).2 = cs := by
  unfold splitExponent
  split
  · split
    · simp
    · split <;> simp
  · simp

theorem splitNumber_append (cs : List Char) : (splitNumber cs).1 ++ (splitNumber cs).2 = cs := by
  simp [splitNumber, splitExponent_append]

theorem splitNumber_ne_nil {c : Char} (h : Decimal.isDigit c = true) (cs : List Char) :
    (splitNumber (c :: cs)).1 ≠ [] := by
  simp [splitNumber, h]

theorem isNamePart_of_isNameStart {c : Char} (h : isNameStart c = true) : isNamePart c = true := by
  simp only [isNameStart, isNamePart, Text.isLetterOrNumeral, Bool.or_eq_true] at *
  rcases h with h | h <;> simp [h]

theorem read_token_lt {cursor next : Cursor} {c : Char} {cs : List Char} {token : Token}
    (hrest : cursor.rest = c :: cs) (h : cursor.read c cs = .token token next) :
    next.rest.length < cursor.rest.length := by
  unfold read at h
  split at h
  · next hd =>
    have happ := congrArg List.length (splitNumber_append cursor.rest)
    have hne := splitNumber_ne_nil hd cs
    rw [← hrest] at hne
    have hpos := List.length_pos_iff.2 hne
    rw [List.length_append] at happ
    simp only [number, past] at h
    split at h
    · split at h
      · cases h
        simp only
        omega
      · cases h
    · cases h
  · split at h
    · simp only [text] at h
      have hlen := Text.length_dropWhile_le (· != '"') cs
      split at h
      · cases h
      · next hd =>
        cases h
        rw [hd] at hlen
        simp only [hrest, List.length_cons] at *
        omega
    · split at h
      · next hn =>
        simp only [name, past] at h
        cases h
        rw [hrest, List.dropWhile_cons_of_pos (isNamePart_of_isNameStart hn)]
        have := Text.length_dropWhile_le isNamePart cs
        simp only [List.length_cons]
        omega
      · split at h
        · cases h
          simp [hrest]
        · cases h

theorem next_token_lt {cursor next : Cursor} {token : Token}
    (h : cursor.next = .token token next) : next.rest.length < cursor.rest.length := by
  unfold Cursor.next at h
  have hle : cursor.skipBlanks.rest.length ≤ cursor.rest.length := Text.length_dropWhile_le ..
  simp only at h
  split at h
  · cases h
  · next hrest => exact Nat.lt_of_lt_of_le (read_token_lt hrest h) hle

end Cursor

end Calculator
