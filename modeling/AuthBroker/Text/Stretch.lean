/-!
Texts in stretches.

A stretch is a run of characters as they stand, or one character many times. A filling of any
length is thus at hand before it is written out, and its length is known without writing it.
-/

namespace AuthBroker.Text

inductive Stretch where
  | plain (cs : List Char)
  | filling (n : Nat) (c : Char)
  deriving DecidableEq, Repr

namespace Stretch

def length : Stretch → Nat
  | .plain cs => cs.length
  | .filling n _ => n

def toList : Stretch → List Char
  | .plain cs => cs
  | .filling n c => List.replicate n c

def map (f : Char → Char) : Stretch → Stretch
  | .plain cs => .plain (cs.map f)
  | .filling n c => .filling n (f c)

theorem length_toList (s : Stretch) : s.toList.length = s.length := by
  cases s with
  | plain cs => rfl
  | filling n c => exact List.length_replicate

theorem toList_map (f : Char → Char) (s : Stretch) : (s.map f).toList = s.toList.map f := by
  cases s with
  | plain cs => rfl
  | filling n c => exact List.map_replicate.symm

end Stretch

def stretchesLength : List Stretch → Nat
  | [] => 0
  | s :: rest => s.length + stretchesLength rest

/-- The characters of stretches, one after the other. -/
def writtenOut (ss : List Stretch) : List Char :=
  ss.flatMap Stretch.toList

theorem length_writtenOut (ss : List Stretch) :
    (writtenOut ss).length = stretchesLength ss := by
  induction ss with
  | nil => rfl
  | cons s rest ih =>
    rw [writtenOut, List.flatMap_cons, List.length_append, Stretch.length_toList]
    exact congrArg (s.length + ·) ih

end AuthBroker.Text
