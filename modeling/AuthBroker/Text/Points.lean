import AuthBroker.Text.Quoted

/-!
Texts that may hold surrogates.

A program may hand over a text in which some code points are surrogates. These stand for no character
and have no octets, so such a text cannot be encoded; the refusal tells where the first of them are.
-/

namespace AuthBroker.Text

/-- A code point: a character, or a surrogate by its offset from U+D800. -/
inductive Point where
  | character (c : Char)
  | surrogate (offset : Fin 0x800)
  deriving DecidableEq, Repr

abbrev Points := List Point

/-- Surrogates that stand in a row: where, the first of them, and how many. -/
structure Torn where
  position : Nat
  first : Fin 0x800
  count : Nat
  deriving DecidableEq, Repr

def Torn.message (torn : Torn) : String :=
  let extent :=
    if torn.count = 1 then
      "character '\\u" ++ String.ofList (hex 4 (0xd800 + torn.first.val)) ++ "' in position " ++
        toString torn.position
    else
      "characters in position " ++ toString torn.position ++ "-" ++
        toString (torn.position + torn.count - 1)
  "'utf-8' codec can't encode " ++ extent ++ ": surrogates not allowed"

namespace Points

def ofString (s : String) : Points :=
  s.toList.map .character

def isSurrogate : Point → Bool
  | .character _ => false
  | .surrogate _ => true

def character? : Point → Option Char
  | .character c => some c
  | .surrogate _ => none

/-- The first surrogates of a text, counted from a position on. -/
def torn? (position : Nat) : Points → Option Torn
  | [] => none
  | .character _ :: rest => torn? (position + 1) rest
  | .surrogate first :: rest => some ⟨position, first, (rest.takeWhile isSurrogate).length + 1⟩

/-- The characters of a text that holds no surrogates. -/
def encode (points : Points) : Except Torn String :=
  match torn? 0 points with
  | some torn => .error torn
  | none => .ok (String.ofList (points.filterMap character?))

theorem torn?_ofString (s : String) (position : Nat) : torn? position (ofString s) = none := by
  rw [ofString]
  induction s.toList generalizing position with
  | nil => rfl
  | cons c cs ih => exact ih (position + 1)

theorem encode_ofString (s : String) : encode (ofString s) = .ok s := by
  have hcharacters : (ofString s).filterMap character? = s.toList := by
    rw [ofString, List.filterMap_map]
    exact List.filterMap_some
  rw [encode, torn?_ofString, hcharacters]
  exact congrArg Except.ok String.ofList_toList

theorem ofString_injective {s t : String} (h : ofString s = ofString t) : s = t := by
  have hencode : (Except.ok s : Except Torn String) = .ok t := by
    rw [← encode_ofString, ← encode_ofString, h]
  exact Except.ok.inj hencode

end Points

end AuthBroker.Text
