/-!
# Base 64

Bytes written six bits at a time, three bytes to four characters, the last group filled up with `=`.
Reading is strict about the alphabet and the length, but does not ask that the bits left over in the
last group are zero, nor does it count the `=` that follow complete groups.
-/

namespace Calculator.Base64

def symbol (sextet : Nat) : Char :=
  if sextet < 26 then Char.ofNat (0x41 + sextet)
  else if sextet < 52 then Char.ofNat (0x61 + (sextet - 26))
  else if sextet < 62 then Char.ofNat (0x30 + (sextet - 52))
  else if sextet = 62 then '+'
  else '/'

def sextet? (c : Char) : Option Nat :=
  if 'A' ≤ c ∧ c ≤ 'Z' then some (c.toNat - 0x41)
  else if 'a' ≤ c ∧ c ≤ 'z' then some (c.toNat - 0x61 + 26)
  else if '0' ≤ c ∧ c ≤ '9' then some (c.toNat - 0x30 + 52)
  else if c = '+' then some 62
  else if c = '/' then some 63
  else none

def encode : List UInt8 → List Char
  | [] => []
  | [a] => [symbol (a.toNat / 4), symbol (a.toNat % 4 * 16), '=', '=']
  | [a, b] =>
    [symbol (a.toNat / 4), symbol (a.toNat % 4 * 16 + b.toNat / 16), symbol (b.toNat % 16 * 4), '=']
  | a :: b :: c :: rest =>
    symbol (a.toNat / 4) :: symbol (a.toNat % 4 * 16 + b.toNat / 16) ::
      symbol (b.toNat % 16 * 4 + c.toNat / 64) :: symbol (c.toNat % 64) :: encode rest

/-- The bytes that groups of six bits spell. One group alone is not enough for a byte. -/
def join : List Nat → Option (List UInt8)
  | [] => some []
  | [_] => none
  | [a, b] => some [UInt8.ofNat (a * 4 + b / 16)]
  | [a, b, c] => some [UInt8.ofNat (a * 4 + b / 16), UInt8.ofNat (b % 16 * 16 + c / 4)]
  | a :: b :: c :: d :: rest =>
    (join rest).map fun bytes =>
      UInt8.ofNat (a * 4 + b / 16) :: UInt8.ofNat (b % 16 * 16 + c / 4) ::
        UInt8.ofNat (c % 4 * 64 + d) :: bytes

/-- Whether `fill` is an accepted number of `=` after `symbols` other characters. -/
def accepts (symbols fill : Nat) : Bool :=
  match symbols % 4 with
  | 0 => symbols != 0 || fill == 0
  | 1 => false
  | 2 => fill == 2
  | _ => fill == 1

def decode (cs : List Char) : Option (List UInt8) :=
  let symbols := cs.takeWhile (· != '=')
  let fill := cs.dropWhile (· != '=')
  if fill.all (· == '=') && accepts symbols.length fill.length then
    (symbols.mapM sextet?).bind join
  else none

def encodeText (text : String) : String :=
  String.ofList (encode text.toUTF8.data.toList)

/-- No text when the bytes are not UTF-8. -/
def decodeText (code : String) : Option String :=
  (decode code.toList).bind fun bytes => String.fromUTF8? ⟨bytes.toArray⟩

end Calculator.Base64
