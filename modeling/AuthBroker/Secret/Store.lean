import AuthBroker.Failure
import AuthBroker.Secret.Coordinate
import AuthBroker.Secret.Key
import AuthBroker.Table

/-!
Stores of secrets.

A ledger keeps every write in the clear and looks a coordinate up from the latest write back; it
can be told to fail. A vault keeps one sealed text for each written coordinate. Both answer a
look-up with the text that was stored last under the coordinate. The broker's store is one of them and
keeps texts under coordinates that can be written down.
-/

namespace AuthBroker.Secret

/-! ## Ledgers -/

/-- A store that keeps every write in the clear. -/
structure Ledger (κ π : Type) where
  writes : List (κ × π)
  failure : Option Failure
  deriving Repr

namespace Ledger

variable {κ π : Type}

def empty : Ledger κ π := ⟨[], none⟩

/-- Writes a text, unless the ledger is told to fail. -/
def put (ledger : Ledger κ π) (coordinate : κ) (text : π) : Except Failure (Ledger κ π) :=
  match ledger.failure with
  | some failure => .error failure
  | none => .ok { ledger with writes := ledger.writes ++ [(coordinate, text)] }

/-- The text written last under a coordinate. -/
def get? [BEq κ] (ledger : Ledger κ π) (coordinate : κ) : Option π :=
  ledger.writes.reverse.lookup coordinate

/-- A ledger that is not told to fail answers with what was just written. -/
theorem get?_append [BEq κ] (ledger : Ledger κ π) (coordinate other : κ) (text : π) :
    get? { ledger with writes := ledger.writes ++ [(coordinate, text)] } other =
      if other == coordinate then some text else ledger.get? other := by
  rw [get?, List.reverse_append, List.reverse_singleton, List.singleton_append, List.lookup_cons]
  cases other == coordinate <;> rfl

theorem put_eq_ok_iff {ledger after : Ledger κ π} {coordinate : κ} {text : π} :
    ledger.put coordinate text = .ok after ↔
      ledger.failure = none ∧
        after = { ledger with writes := ledger.writes ++ [(coordinate, text)] } := by
  rw [put]
  cases ledger.failure with
  | none => simp [eq_comm]
  | some failure => simp

end Ledger

/-! ## Vaults -/

structure Sealed where
  key : Key
  text : String
  deriving DecidableEq, Repr

namespace Sealed

/-- The text, for the holder of the key. -/
def unseal? (box : Sealed) (key : Key) : Option String :=
  if key = box.key then some box.text else none

/-- The characters that every sealed form starts with, whatever it seals. -/
def header : String := "gAAAAAB"

/-- The octets of a sealed form: one for the version, eight for the time, sixteen for the initial
block and thirty-two for the seal, around the text in blocks of sixteen octets, of which the last
is never full. -/
def octetCount (box : Sealed) : Nat :=
  57 + 16 * (box.text.utf8ByteSize / 16 + 1)

/-- The equals signs at the end of a sealed form, which is written in groups of four digits for
three octets. -/
def filling (box : Sealed) : List Char :=
  List.replicate ((3 - box.octetCount % 3) % 3) '='

def holds (text part : List Char) : Bool :=
  part.isPrefixOf text ||
    match text with
    | [] => false
    | _ :: rest => holds rest part

/-- Whether nothing of a text can be seen in the sealed form. What stands between the header and
the filling depends on the time and on chance. -/
def hides (box : Sealed) (text : String) : Bool :=
  !holds header.toList text.toList && !holds box.filling text.toList

theorem unseal?_self (box : Sealed) : box.unseal? box.key = some box.text :=
  if_pos rfl

end Sealed

/-- A store that keeps texts sealed, by what their coordinates are written as. -/
structure Vault (κ : Type) where
  key : Key
  boxes : Table κ Sealed
  deriving Repr

namespace Vault

variable {κ : Type}

def empty (key : Key) : Vault κ := ⟨key, []⟩

/-- Seals a text under a written coordinate, in place of an earlier one. -/
def sealAs [BEq κ] (vault : Vault κ) (written : κ) (text : String) : Vault κ :=
  { vault with boxes := vault.boxes.insert written ⟨vault.key, text⟩ }

/-- The text that is sealed under a written coordinate. -/
def unsealAs? [BEq κ] (vault : Vault κ) (written : κ) : Option String :=
  (vault.boxes.get? written).bind (·.unseal? vault.key)

def put (vault : Vault String) (coordinate : Coordinate) (text : String) : Vault String :=
  vault.sealAs coordinate.full text

def get? (vault : Vault String) (coordinate : Coordinate) : Option String :=
  vault.unsealAs? coordinate.full

theorem unsealAs?_sealAs [BEq κ] [LawfulBEq κ] (vault : Vault κ) (written other : κ)
    (text : String) :
    (vault.sealAs written text).unsealAs? other =
      if other == written then some text else vault.unsealAs? other := by
  simp only [unsealAs?, sealAs]
  by_cases h : other = written
  · rw [if_pos (beq_iff_eq.mpr h), h, Table.get?_insert_self]
    exact Sealed.unseal?_self ⟨vault.key, text⟩
  · rw [if_neg (mt beq_iff_eq.mp h), Table.get?_insert_of_ne _ _ h]

end Vault

/-! ## Stores -/

inductive Store where
  | clear (ledger : Ledger Coordinate String)
  | secured (vault : Vault String)
  deriving Repr

namespace Store

def put (store : Store) (coordinate : Coordinate) (text : String) : Except Failure Store :=
  match store with
  | .clear ledger => (ledger.put coordinate text).map .clear
  | .secured vault => .ok (.secured (vault.put coordinate text))

def get? (store : Store) (coordinate : Coordinate) : Option String :=
  match store with
  | .clear ledger => ledger.get? coordinate
  | .secured vault => vault.get? coordinate

/-- What is stored, by written coordinate, in order of arrival. -/
def entries : Store → List (String × String)
  | .clear ledger => ledger.writes.map fun (coordinate, text) => (coordinate.full, text)
  | .secured vault => vault.boxes.map fun (name, box) => (name, box.text)

/-- Tells a ledger to fail, or to work again. -/
def setFailure (store : Store) (failure : Option Failure) : Store :=
  match store with
  | .clear ledger => .clear { ledger with failure := failure }
  | .secured vault => .secured vault

end Store

end AuthBroker.Secret
