import Calculator.Expr.Reader

/-!
# The grammar of expressions

The grammar is stated apart from the reader. It has two tiers of operators, both grouping to the
left; signs bind more tightly than any operator and nest; parentheses leave no node; arguments
stand in source order with a comma between neighbours.

`Derives.words_eq`: the operators, numbers, texts and names of a tree, from left to right, are those
of the lexemes that it is derived from. Nothing of a source is lost, repeated or moved.
-/

namespace Calculator

namespace Reader

def separated : List (List Lexeme) → List Lexeme
  | [] => []
  | [ls] => ls
  | ls :: more => ls ++ .comma :: separated more

/-- The lexemes that a phrase consists of, and the tree that they stand for. -/
inductive Derives : Phrase → List Lexeme → Expr → Prop
  | number (literal : String) (value : Binary64) :
      Derives .factor [.number literal value] (.number value)
  | text (content : String) : Derives .factor [.text content] (.text content)
  | signed {ls e} (sign : Sign) : Derives .factor ls e →
      Derives .factor (.operator (.sum sign) :: ls) (.signed sign e)
  | group {ls e} : Derives .expression ls e →
      Derives .factor (.openParen :: (ls ++ [.closeParen])) e
  | call (name : String) (arguments : List (List Lexeme × Expr)) :
      (∀ a ∈ arguments, Derives .expression a.1 a.2) →
      Derives .factor
        (.name name :: .openParen :: (separated (arguments.map Prod.fst) ++ [.closeParen]))
        (.call name (arguments.map Prod.snd))
  | factor {ls e} : Derives .factor ls e → Derives .term ls e
  | product {ls left ms right} (scaling : Scaling) :
      Derives .term ls left → Derives .factor ms right →
      Derives .term (ls ++ .operator (.product scaling) :: ms)
        (.binary left (.product scaling) right)
  | term {ls e} : Derives .term ls e → Derives .expression ls e
  | sum {ls left ms right} (sign : Sign) :
      Derives .expression ls left → Derives .term ms right →
      Derives .expression (ls ++ .operator (.sum sign) :: ms) (.binary left (.sum sign) right)

end Reader

/-! ## What a tree keeps of its source -/

/-- A lexeme that has a place in the tree. A number counts by its value. -/
inductive Word where
  | operator (operator : Operator)
  | number (value : Binary64)
  | text (content : String)
  | name (lowered : String)
deriving DecidableEq

def Lexeme.word? : Lexeme → Option Word
  | .operator op => some (.operator op)
  | .number _ value => some (.number value)
  | .text content => some (.text content)
  | .name lowered => some (.name lowered)
  | .openParen | .closeParen | .comma => none

namespace Expr

mutual

def words : Expr → List Word
  | .number value => [.number value]
  | .text content => [.text content]
  | .signed sign operand => .operator (.sum sign) :: operand.words
  | .binary left op right => left.words ++ .operator op :: right.words
  | .call name arguments => .name name :: wordsOfAll arguments
  | .bare => []

def wordsOfAll : List Expr → List Word
  | [] => []
  | e :: es => e.words ++ wordsOfAll es

end

end Expr

namespace Reader

theorem separated_words {arguments : List (List Lexeme × Expr)}
    (h : ∀ a ∈ arguments, a.2.words = a.1.filterMap Lexeme.word?) :
    Expr.wordsOfAll (arguments.map Prod.snd) =
      (separated (arguments.map Prod.fst)).filterMap Lexeme.word? := by
  induction arguments with
  | nil => rfl
  | cons a more ih =>
    have ha := h a (by simp)
    have hmore := ih fun b hb => h b (List.mem_cons_of_mem _ hb)
    cases more with
    | nil => simp [Expr.wordsOfAll, separated, ha]
    | cons b more =>
      simp only [List.map_cons, Expr.wordsOfAll, separated, List.filterMap_append] at hmore ⊢
      rw [ha, hmore]
      rfl

theorem Derives.words_eq {phrase : Phrase} {ls : List Lexeme} {e : Expr}
    (h : Derives phrase ls e) : e.words = ls.filterMap Lexeme.word? := by
  induction h with
  | number | text => rfl
  | signed sign _ ih => simp [Expr.words, Lexeme.word?, ih]
  | group _ ih => simp [List.filterMap_cons, Lexeme.word?, ih]
  | call name arguments _ ih =>
    simp [Expr.words, List.filterMap_cons, Lexeme.word?, separated_words ih]
  | factor _ ih => exact ih
  | product scaling _ _ ihl ihr => simp [Expr.words, Lexeme.word?, ihl, ihr]
  | term _ ih => exact ih
  | sum sign _ _ ihl ihr => simp [Expr.words, Lexeme.word?, ihl, ihr]

end Reader

end Calculator
