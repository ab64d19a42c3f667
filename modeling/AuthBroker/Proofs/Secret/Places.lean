import AuthBroker.Proofs.Input.Expression
import AuthBroker.Proofs.Path.Canonical
import AuthBroker.Proofs.Path.Continuation
import AuthBroker.Proofs.Secret.Payload

/-! # Looking up the places that are listed

The places of the numbers that are not finite are written as expressions. Where every key is plain,
the places of a location are the pieces of its expression, so different locations are written
differently (`Location.written_injective`). Such an expression can be read as long as no position has
more digits than an index may have, and then it leads to what is at the location and nothing else, unless the
way goes through a tuple, into which no step leads (`Location.lookup_written`). -/

namespace AuthBroker

open Input (PlainKey)

/-! ## Locations as paths -/

/-- The step to a place. -/
def Place.step : Place → Segment
  | .key name => .key name
  | .item position => .index position

/-- The path to a location. -/
def Location.path (location : Location) : Path :=
  location.map Place.step

def Document.isTuple : Document → Bool
  | .tuple _ => true
  | _ => false

/-- Whether the way to a location goes through a tuple. -/
def Document.crossesTuple (d : Document) : Location → Bool
  | [] => false
  | place :: rest => d.isTuple || (d.child? place).any (·.crossesTuple rest)

theorem Place.select_step (place : Place) (d : Document) :
    place.step.select d = if d.isTuple then [] else (d.child? place).toList := by
  cases place with
  | key name => cases d <;> rfl
  | item position =>
    cases d with
    | list items =>
      have hposition := Segment.position?_eq_some_iff items.length position
      rw [step, Segment.select, Document.child?]
      by_cases hlt : position < items.length
      · rw [(hposition position).mpr ⟨hlt, by simp⟩]
        rfl
      · have hnone : Segment.position? items.length position = none := by
          refine Option.eq_none_iff_forall_ne_some.mpr fun other hother => ?_
          obtain ⟨hother, heq⟩ := (hposition other).mp hother
          rw [if_pos (Int.natCast_nonneg position), Int.natCast_inj] at heq
          exact hlt (heq ▸ hother)
        rw [hnone, List.getElem?_eq_none (Nat.le_of_not_lt hlt)]
        rfl
    | _ => rfl

/-- The path to a location leads to what is there, or nowhere if a tuple is on the way. -/
theorem Location.query_path (location : Location) (d : Document) :
    location.path.query d = if d.crossesTuple location then [] else (d.at? location).toList := by
  induction location generalizing d with
  | nil => rfl
  | cons place rest ih =>
    rw [path, List.map_cons, Path.query_cons, place.select_step, Document.at?, Document.crossesTuple]
    cases d.isTuple with
    | true => rfl
    | false =>
      cases d.child? place with
      | none => rfl
      | some child =>
        simp only [Bool.false_eq_true, if_false, Option.toList_some, List.flatMap_singleton,
          Option.any_some, Bool.false_or, Option.bind_some]
        exact ih child

theorem Location.single?_path (location : Location) (d : Document) :
    location.path.single? d = if d.crossesTuple location then none else d.at? location := by
  rw [Path.single?, location.query_path]
  cases d.crossesTuple location with
  | true => rfl
  | false => cases d.at? location <;> rfl

/-! ## Places as pieces -/

/-- The piece that a place is written as. -/
def Place.piece : Place → Path.Piece
  | .key name => .dotted name.toList
  | .item position => .bracketed (Document.intText position)

def Place.Plain : Place → Prop
  | .key name => PlainKey name
  | .item _ => True

/-- Every position in a location is an index that can be read. -/
def Location.Readable (location : Location) : Prop :=
  ∀ position, .item position ∈ location → position < 10 ^ Text.digitLimit

theorem Place.toList_behind (above : String) (place : Place) :
    (place.behind above).toList = above.toList ++ place.piece.text := by
  cases place with
  | key name =>
    rw [behind, String.toList_append, String.toList_append, List.append_assoc]
    rfl
  | item position =>
    have hdigits : (toString position).toList = Document.intText position :=
      Nat.toList_repr.trans (Document.intText_natCast position).symm
    simp only [behind, String.toList_append, hdigits, List.append_assoc]
    rfl

theorem Location.toList_written (location : Location) :
    location.written.toList = '$' :: (location.map Place.piece).flatMap Path.Piece.text := by
  have hfold : ∀ above : String, (location.foldl Place.behind above).toList =
      above.toList ++ (location.map Place.piece).flatMap Path.Piece.text := by
    induction location with
    | nil =>
      intro above
      exact (List.append_nil _).symm
    | cons place rest ih =>
      intro above
      rw [List.foldl_cons, ih, place.toList_behind, List.append_assoc]
      rfl
  exact hfold "$"

theorem Place.piece_injective : Function.Injective Place.piece := by
  intro first second h
  cases first with
  | key name =>
    cases second with
    | key other => rw [String.toList_injective (Path.Piece.dotted.inj h)]
    | item position => cases h
  | item position =>
    cases second with
    | key other => cases h
    | item other =>
      have hposition := Document.intText_injective (Path.Piece.bracketed.inj h)
      rw [Int.natCast_inj.mp hposition]

theorem Place.Plain.delimited {place : Place} (h : place.Plain) : place.piece.Delimited := by
  cases place with
  | key name => exact (Input.means_of_plainKey h).delimited
  | item position => exact Path.bracket_notMem_intText position

/-- The piece of a plain place stands for the step to the place. -/
theorem Place.Plain.means {place : Place} (h : place.Plain)
    (hposition : ∀ position, place = .item position → position < 10 ^ Text.digitLimit) :
    place.piece.Means place.step := by
  cases place with
  | key name => exact Input.means_of_plainKey h
  | item position =>
    have hwritable : (Segment.index position).Writable := hposition position rfl
    exact Path.means_piece hwritable

/-- A position whose piece stands for a step is an index that can be read. -/
theorem Place.lt_of_means {position : Nat} {step : Segment}
    (h : (Place.item position).piece.Means step) : position < 10 ^ Text.digitLimit := by
  cases h with
  | selector _ hselects =>
    rw [Text.trim_intText, Document.intText_natCast] at hselects
    have hfirst : ∀ c ∈ Nat.toDigits 10 position, c.isDigit = true :=
      fun c => Text.isDigit_of_mem_toDigits
    generalize htoken : Nat.toDigits 10 position = token at hselects hfirst
    cases hselects with
    | wildcard => exact absurd (hfirst '*' List.mem_cons_self) (by decide)
    | @quoted quote name hquote =>
      have hdigit := hfirst quote List.mem_cons_self
      rcases hquote with rfl | rfl
      · exact absurd hdigit (by decide)
      · exact absurd hdigit (by decide)
    | index hint =>
      rw [← htoken] at hint
      exact Text.lt_of_isInteger_toDigits hint

/-! ## Written locations -/

namespace Location

section
variable {location other : Location}

theorem written_injective (h : ∀ place ∈ location, place.Plain)
    (h' : ∀ place ∈ other, place.Plain) (heq : location.written = other.written) :
    location = other := by
  have hpieces : location.map Place.piece = other.map Place.piece := by
    refine Path.pieces_unique ?_ ?_ ?_
    · exact List.forall_mem_map.mpr fun place hplace => (h place hplace).delimited
    · exact List.forall_mem_map.mpr fun place hplace => (h' place hplace).delimited
    · have htext := congrArg String.toList heq
      rw [toList_written, toList_written] at htext
      exact (List.cons.inj htext).2
  exact Place.piece_injective.list_map hpieces

theorem parse_written (h : ∀ place ∈ location, place.Plain) (hreadable : location.Readable) :
    Path.parse location.written = .ok location.path := by
  have hmeans : List.Forall₂ Path.Piece.Means (location.map Place.piece) location.path := by
    rw [path, List.forall₂_map_left_iff, List.forall₂_map_right_iff, List.forall₂_same]
    intro place hplace
    refine (h place hplace).means ?_
    rintro position rfl
    exact hreadable position hplace
  rw [← Path.parse_pieces hmeans, ← toList_written, String.ofList_toList]

theorem lookup_written (h : ∀ place ∈ location, place.Plain) (hreadable : location.Readable)
    (d : Document) : d.lookup location.written =
      .ok (if d.crossesTuple location then none else d.at? location) := by
  rw [Document.lookup, parse_written h hreadable, ← location.single?_path]
  rfl

theorem readable_of_parse (h : ∀ place ∈ location, place.Plain) {path : Path}
    (hparse : Path.parse location.written = .ok path) : location.Readable := by
  have hdelimited : ∀ piece ∈ location.map Place.piece, piece.Delimited :=
    List.forall_mem_map.mpr fun place hplace => (h place hplace).delimited
  have hne : location.written ≠ "$." := by
    -- the point would be a piece with an empty name, and no plain key is empty
    intro hpoint
    have htext := congrArg String.toList hpoint
    rw [toList_written] at htext
    have hpieces : location.map Place.piece = [.dotted []] :=
      Path.pieces_unique hdelimited (List.forall_mem_singleton.mpr nofun) (List.cons.inj htext).2
    obtain ⟨place, rfl, hplace⟩ := List.map_eq_singleton_iff.mp hpieces
    cases place with
    | key name =>
      have hempty : name = "" := by simpa [Place.piece] using hplace
      exact (h _ List.mem_cons_self).1 hempty
    | item position => cases hplace
  obtain ⟨pieces, htext, hmeans⟩ := Path.exists_pieces_of_parse hne hparse
  rw [toList_written] at htext
  have hpieces := Path.pieces_unique hdelimited (Path.delimited_of_means hmeans)
    (List.cons.inj htext).2
  subst hpieces
  intro position hposition
  obtain ⟨step, hstep⟩ := Path.exists_means_of_mem hmeans (List.mem_map_of_mem hposition)
  exact Place.lt_of_means hstep

end

end Location

/-! ## Documents with plain keys -/

namespace Document

/-- Every key of every table in the document is plain. -/
inductive PlainKeys : Document → Prop
  | null : PlainKeys .null
  | bool (value : Bool) : PlainKeys (.bool value)
  | int (value : Int) : PlainKeys (.int value)
  | float (value : Binary64) : PlainKeys (.float value)
  | text (value : String) : PlainKeys (.text value)
  | foreign (description : String) : PlainKeys (.foreign description)
  | list {items : List Document} : (∀ item ∈ items, PlainKeys item) → PlainKeys (.list items)
  | tuple {items : List Document} : (∀ item ∈ items, PlainKeys item) → PlainKeys (.tuple items)
  | set {items : List Document} : (∀ item ∈ items, PlainKeys item) → PlainKeys (.set items)
  | object {entries : Fields} : (∀ key ∈ entries.keys, PlainKey key) →
      (∀ entry ∈ entries, PlainKeys entry.2) → PlainKeys (.object entries)

section
variable {d : Document}

/-- The locations in a document with plain keys go through plain places only. -/
theorem PlainKeys.plain (h : d.PlainKeys) {location : Location} {value : Document}
    (hat : d.at? location = some value) : ∀ place ∈ location, place.Plain := by
  induction location generalizing d with
  | nil => simp
  | cons place rest ih =>
    obtain ⟨child, hchild, hrest⟩ := Option.bind_eq_some_iff.mp hat
    rw [List.forall_mem_cons]
    cases h with
    | list hitems | tuple hitems =>
      cases place with
      | key name => cases hchild
      | item position => exact ⟨trivial, ih (hitems child (List.mem_of_getElem? hchild)) hrest⟩
    | object hkeys hvalues =>
      cases place with
      | key name =>
        exact ⟨hkeys name (Table.mem_keys_of_get? hchild),
          ih (hvalues _ (Table.mem_of_get? hchild)) hrest⟩
      | item position => cases hchild
    | _ => cases hchild

theorem Proper.nonFiniteLocations_ordered (h : d.Proper) :
    d.nonFiniteLocations.Pairwise d.Before :=
  List.pairwise_map.mpr (h.occurrences_ordered.filter _)

theorem exists_float_of_isNonFinite {value : Document} (h : value.isNonFinite = true) :
    ∃ x, value = .float x ∧ x.isFinite = false := by
  cases value with
  | float x => exact ⟨x, rfl, by simpa [isNonFinite] using h⟩
  | _ => cases h

end

end Document

namespace Secret

/-- Numbers that are not finite in a list of a list, and under keys with quotes and a bracket. -/
def oddPayload : Fields := [
  ("a]", .list [.int 1, .list [.text "x", .float .nan]]),
  ("0", .object [("'q'", .float (.infinite true))])]

theorem proper_oddPayload : (Document.object oddPayload).Proper := by
  have hinner : (Document.list [.text "x", .float .nan]).Proper :=
    .list (by simp [Document.Proper.text, Document.Proper.float])
  have houter : (Document.list [.int 1, .list [.text "x", .float .nan]]).Proper :=
    .list (by simp [Document.Proper.int, hinner])
  have htable : (Document.object [("'q'", .float (.infinite true))]).Proper :=
    .object (by decide) (by simp [Document.Proper.float])
  exact .object (by decide) (by simp [oddPayload, houter, htable])

theorem plainKeys_oddPayload : (Document.object oddPayload).PlainKeys := by
  have hinner : (Document.list [.text "x", .float .nan]).PlainKeys :=
    .list (by simp [Document.PlainKeys.text, Document.PlainKeys.float])
  have houter : (Document.list [.int 1, .list [.text "x", .float .nan]]).PlainKeys :=
    .list (by simp [Document.PlainKeys.int, hinner])
  have htable : (Document.object [("'q'", .float (.infinite true))]).PlainKeys :=
    .object (by unfold PlainKey; decide) (by simp [Document.PlainKeys.float])
  exact .object (by unfold PlainKey; decide) (by simp [oddPayload, houter, htable])

/-- A number that is not finite in a tuple. -/
def tuplePayload : Fields := [("a", .tuple [.float .nan])]

/-- A number that is not finite in a set. -/
def setPayload : Fields := [("a", .set [.float .nan])]

end Secret

end AuthBroker
