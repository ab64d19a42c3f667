/-!
Keys of sealed stores: 32 octets, written in base 64.

Four digits make three octets. Either alphabet may be used, with `+` and `/` or with `-` and
`_`; characters outside both are skipped. An equals sign that fills up a group of two or three
digits ends the text; any other is skipped. A text that ends inside a group is no key.
-/

namespace AuthBroker.Secret

structure Key where
  octets : List UInt8
  size_eq : octets.length = 32
  deriving DecidableEq, Repr

namespace Key

def digit? (c : Char) : Option Nat :=
  if 'A' ≤ c ∧ c ≤ 'Z' then some (c.toNat - 'A'.toNat)
  else if 'a' ≤ c ∧ c ≤ 'z' then some (c.toNat - 'a'.toNat + 26)
  else if '0' ≤ c ∧ c ≤ '9' then some (c.toNat - '0'.toNat + 52)
  else if c = '+' ∨ c = '-' then some 62
  else if c = '/' ∨ c = '_' then some 63
  else none

/-- The octets that a group of at most four digits fills. -/
def groupOctets : List Nat → List UInt8
  | [a, b] => [.ofNat (4 * a + b / 16)]
  | [a, b, c] => [.ofNat (4 * a + b / 16), .ofNat (16 * b + c / 4)]
  | [a, b, c, d] => [.ofNat (4 * a + b / 16), .ofNat (16 * b + c / 4), .ofNat (64 * c + d)]
  | _ => []

/-- Reads octets to the end of the text, after the digits of an open group and the equals
signs since the last of them. -/
def readOctets? (group : List Nat) (fill : Nat) : List Char → Option (List UInt8)
  | [] => if group.isEmpty then some [] else none
  | c :: rest =>
    if c = '=' then
      if group.length < 2 then readOctets? group fill rest
      else if 4 ≤ group.length + fill + 1 then some (groupOctets group)
      else readOctets? group (fill + 1) rest
    else
      match digit? c with
      | none => readOctets? group fill rest
      | some d =>
        if group.length < 3 then readOctets? (group ++ [d]) 0 rest
        else (readOctets? [] 0 rest).map (groupOctets (group ++ [d]) ++ ·)

def ofText? (s : String) : Option Key :=
  (readOctets? [] 0 s.toList).bind fun octets =>
    if h : octets.length = 32 then some ⟨octets, h⟩ else none

end Key

end AuthBroker.Secret
