import Calculator.Base64
import Calculator.Binary64.Trigonometry
import Calculator.Builtin.Conversion
import Calculator.Text.Replacement

/-!
# Built-in functions
-/

namespace Calculator

inductive Builtin where
  | base
  | cos
  | sin
  | tan
  | decode64
  | encode64
  | len
  | replace
  | reverse
deriving DecidableEq, Repr

namespace Builtin

/-- All built-in functions, in the order in which they are listed for users. -/
def all : List Builtin :=
  [.base, .cos, .sin, .tan, .decode64, .encode64, .len, .replace, .reverse]

def name : Builtin → String
  | .base => "base"
  | .cos => "cos"
  | .sin => "sin"
  | .tan => "tan"
  | .decode64 => "decode64"
  | .encode64 => "encode64"
  | .len => "len"
  | .replace => "replace"
  | .reverse => "reverse"

def requirement : Builtin → Requirement
  | .base => ⟨3, none, "base(value, fromBase, toBase)"⟩
  | .cos => ⟨1, some .number, "cos(number)"⟩
  | .sin => ⟨1, some .number, "sin(number)"⟩
  | .tan => ⟨1, some .number, "tan(number)"⟩
  | .decode64 => ⟨1, some .text, "decode64(text)"⟩
  | .encode64 => ⟨1, some .text, "encode64(text)"⟩
  | .len => ⟨1, some .text, "len(text)"⟩
  | .replace => ⟨3, some .text, "replace(text, old, new)"⟩
  | .reverse => ⟨1, some .text, "reverse(text)"⟩

def usage (f : Builtin) : String :=
  f.requirement.usage

/-- A list of arguments that matches no case does not meet the requirement. -/
def apply : Builtin → List Value → Except EvalError Value
  | .base, [value, source, target] => Conversion.convert value source target
  | .cos, [.number x] => .ok (.number x.cos)
  | .sin, [.number x] => .ok (.number x.sin)
  | .tan, [.number x] => .ok (.number x.tan)
  | .decode64, [.text text] =>
    match Base64.decodeText text with
    | some decoded => .ok (.text decoded)
    | none => .error (.notBase64 text)
  | .encode64, [.text text] => .ok (.text (Base64.encodeText text))
  | .len, [.text text] => .ok (.number (.ofInt text.length))
  | .replace, [.text text, .text old, .text new] =>
    .ok (.text (String.ofList (Text.replace text.toList old.toList new.toList)))
  | .reverse, [.text text] => .ok (.text (String.ofList text.toList.reverse))
  | f, _ => .error (.arguments f.requirement)

theorem apply_of_not_met (f : Builtin) (arguments : List Value)
    (h : f.requirement.isMetBy arguments = false) :
    f.apply arguments = .error (.arguments f.requirement) := by
  unfold apply
  split <;> first | rfl | simp [requirement, Requirement.isMetBy, Value.kind] at h

end Builtin

/-- The functions that can be called, each under a name. -/
abbrev Registry := List (String × Builtin)

def Registry.builtins : Registry :=
  Builtin.all.map fun f => (f.name, f)

def Builtin.named? (name : String) : Option Builtin :=
  Registry.builtins.lookup name

end Calculator
