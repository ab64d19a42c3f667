import AuthBroker.Proofs.Document.Plain
import AuthBroker.Secret.Payload

/-! # Payloads that have no text

As long as there is room for the search, a payload has no text if it holds a number that is not finite,
or else has none if it is not printed. The refusal of the former lists the written locations of all such
numbers, in the order of the payload (`nonFinite_eq`). The search does not go into sets, so it tells
whether there are such numbers where none of them is in a set (`Document.SetsFinite`). -/

namespace AuthBroker

/-- A place written behind what is written for the place above it. -/
def Place.behind (above : String) : Place → String
  | .key name => above ++ "." ++ name
  | .item position => above ++ "[" ++ toString position ++ "]"

/-- A location written from the root on. -/
def Location.written (location : Location) : String :=
  location.foldl Place.behind "$"

namespace Document

/-- The locations, among some values, of the numbers that are not finite. -/
def nonFiniteAmong (occurrences : List (Location × Document)) : List Location :=
  (occurrences.filter fun occurrence => occurrence.2.isNonFinite).map Prod.fst

/-- The locations of the numbers in a document that are not finite, in order. -/
def nonFiniteLocations (d : Document) : List Location :=
  nonFiniteAmong d.occurrences

theorem nonFiniteAmong_append (first second : List (Location × Document)) :
    nonFiniteAmong (first ++ second) = nonFiniteAmong first ++ nonFiniteAmong second := by
  rw [nonFiniteAmong, List.filter_append, List.map_append]
  rfl

theorem nonFiniteAmong_map_under (place : Place) (occurrences : List (Location × Document)) :
    nonFiniteAmong (occurrences.map (under place)) =
      (nonFiniteAmong occurrences).map (place :: ·) := by
  rw [nonFiniteAmong, List.filter_map, List.map_map, nonFiniteAmong, List.map_map]
  rfl

end Document

/-! ## Written locations -/

namespace Secret

open Document (nonFiniteAmong nonFiniteAmong_append nonFiniteAmong_map_under itemOccurrences
  entryOccurrences)

mutual

/-- The places that are listed are the written locations of the numbers that are not finite. -/
theorem nonFinite_eq : ∀ (place : String) (d : Document),
    nonFinite place d = d.nonFiniteLocations.map (·.foldl Place.behind place)
  | _, .null | _, .bool _ | _, .int _ | _, .text _ | _, .set _ | _, .foreign _ => rfl
  | place, .float x => by
    rw [nonFinite, Document.nonFiniteLocations, Document.occurrences, nonFiniteAmong]
    cases hx : x.isFinite <;> simp [Document.isNonFinite, hx]
  | place, .list items | place, .tuple items => by
    rw [nonFinite, Document.nonFiniteLocations, Document.occurrences]
    exact nonFiniteItems_eq place 0 items
  | place, .object entries => by
    rw [nonFinite, Document.nonFiniteLocations, Document.occurrences]
    exact nonFiniteEntries_eq place entries

theorem nonFiniteItems_eq : ∀ (place : String) (position : Nat) (items : List Document),
    nonFiniteItems place position items =
      (nonFiniteAmong (itemOccurrences position items)).map (·.foldl Place.behind place)
  | _, _, [] => rfl
  | place, position, item :: rest => by
    rw [nonFiniteItems, itemOccurrences, nonFiniteAmong_append, nonFiniteAmong_map_under,
      List.map_append, List.map_map, nonFinite_eq, nonFiniteItems_eq]
    rfl

theorem nonFiniteEntries_eq : ∀ (place : String) (entries : List (String × Document)),
    nonFiniteEntries place entries =
      (nonFiniteAmong (entryOccurrences entries)).map (·.foldl Place.behind place)
  | _, [] => rfl
  | place, (key, value) :: rest => by
    rw [nonFiniteEntries, entryOccurrences, nonFiniteAmong_append, nonFiniteAmong_map_under,
      List.map_append, List.map_map, nonFinite_eq, nonFiniteEntries_eq]
    rfl

end

theorem nonFinitePlaces_eq (payload : Fields) :
    nonFinitePlaces payload =
      (Document.object payload).nonFiniteLocations.map Location.written :=
  nonFinite_eq "$" (.object payload)

end Secret

/-! ## What the search finds -/

namespace Document

section
variable {d : Document}

theorem Proper.mem_nonFiniteLocations_iff (h : d.Proper) (location : Location) :
    location ∈ d.nonFiniteLocations ↔
      ∃ value, d.at? location = some value ∧ value.isNonFinite = true := by
  simp [nonFiniteLocations, nonFiniteAmong, h.mem_occurrences_iff]

/-- No set in the document holds a number that is not finite. -/
def SetsFinite (d : Document) : Prop :=
  ∀ items, Occurs (.set items) d → ¬ HoldsNonFinite (.set items)

theorem SetsFinite.of_mem_parts {part : Document} (h : d.SetsFinite) (hpart : part ∈ d.parts) :
    part.SetsFinite :=
  fun items hitems => h items (.inside hpart hitems)

theorem setsFinite_of_parts (hset : ∀ items, d ≠ .set items) (h : ∀ part ∈ d.parts, part.SetsFinite) :
    d.SetsFinite := by
  intro items hoccurs
  cases hoccurs with
  | here => exact absurd rfl (hset items)
  | inside hpart hinside => exact h _ hpart items hinside

/-- A part that is not an item of a set stands at a place. -/
theorem Proper.exists_child? {part : Document} (h : d.Proper) (hpart : part ∈ d.parts) :
    (∃ items, d = .set items) ∨ ∃ place, d.child? place = some part := by
  cases d with
  | set items => exact .inl ⟨items, rfl⟩
  | list items | tuple items =>
    obtain ⟨position, hposition⟩ := List.mem_iff_getElem?.mp hpart
    exact .inr ⟨.item position, hposition⟩
  | object entries =>
    obtain ⟨entry, hentry, rfl⟩ := List.mem_map.mp hpart
    exact .inr ⟨.key entry.1, Table.get?_of_mem h.nodup_keys hentry⟩
  | _ => cases hpart

/-- Outside of sets, what is in a document is at a location. -/
theorem Proper.exists_at? (h : d.Proper) (hsets : d.SetsFinite) {value : Document}
    (hoccurs : Occurs value d) (hvalue : value.isNonFinite = true) :
    ∃ location, d.at? location = some value := by
  induction hoccurs with
  | here => exact ⟨[], rfl⟩
  | @inside d part hpart hinside ih =>
    rcases h.exists_child? hpart with ⟨items, rfl⟩ | ⟨place, hchild⟩
    · exact absurd ⟨value, .inside hpart hinside, hvalue⟩ (hsets items .here)
    · obtain ⟨location, hat⟩ := ih (h.child hchild) (hsets.of_mem_parts hpart)
      exact ⟨place :: location, by rw [at?, hchild, Option.bind_some, hat]⟩

theorem Proper.nonFiniteLocations_eq_nil_iff (h : d.Proper) (hsets : d.SetsFinite) :
    d.nonFiniteLocations = [] ↔ ¬ d.HoldsNonFinite := by
  simp only [List.eq_nil_iff_forall_not_mem, h.mem_nonFiniteLocations_iff, HoldsNonFinite, Holds,
    not_exists, not_and]
  constructor
  · intro hnone value hoccurs hvalue
    obtain ⟨location, hat⟩ := h.exists_at? hsets hoccurs hvalue
    exact hnone location value hat hvalue
  · exact fun hfinite location value hat => hfinite value (occurs_of_at? hat)

/-! ## JSON-like documents -/

theorem JsonLike.proper (h : JsonLike d) : d.Proper := by
  induction h with
  | null => exact .null
  | bool value => exact .bool value
  | int value => exact .int value
  | float negative rank => exact .float _
  | text value => exact .text value
  | list _ ih => exact .list ih
  | object hkeys _ ih => exact .object hkeys ih

theorem JsonLike.of_occurs {value : Document} (h : JsonLike d) (hoccurs : Occurs value d) :
    JsonLike value := by
  induction hoccurs with
  | here => exact h
  | inside hpart _ ih =>
    refine ih ?_
    cases h with
    | list hitems => exact hitems _ hpart
    | object _ hvalues =>
      obtain ⟨entry, hentry, rfl⟩ := List.mem_map.mp hpart
      exact hvalues entry hentry
    | _ => cases hpart

theorem JsonLike.not_holdsNonFinite (h : JsonLike d) : ¬ d.HoldsNonFinite := by
  rintro ⟨value, hoccurs, hvalue⟩
  cases h.of_occurs hoccurs <;> cases hvalue

theorem JsonLike.not_holdsForeign (h : JsonLike d) : ¬ d.HoldsForeign := by
  rintro ⟨value, hoccurs, description, rfl⟩
  cases h.of_occurs hoccurs

/-! ## Room -/

mutual

/-- The search stops at sets, where printing goes on. -/
theorem searchLevels_le_depth : ∀ d : Document, d.searchLevels ≤ d.depth
  | .list items | .tuple items => by
    rw [searchLevels, depth]
    exact Nat.succ_le_succ (searchLevelsItems_le_depthItems items)
  | .object entries => by
    rw [searchLevels, depth]
    exact Nat.succ_le_succ (searchLevelsEntries_le_depthEntries entries)
  | .set items => by
    rw [searchLevels]
    exact one_le_depth _
  | .null | .bool _ | .int _ | .float _ | .text _ | .foreign _ => Nat.le_refl 1

theorem searchLevelsItems_le_depthItems : ∀ items, searchLevelsItems items ≤ depthItems items
  | [] => Nat.le_refl 0
  | item :: rest => by
    rw [searchLevelsItems, depthItems]
    exact max_le_max (searchLevels_le_depth item) (searchLevelsItems_le_depthItems rest)

theorem searchLevelsEntries_le_depthEntries : ∀ entries, searchLevelsEntries entries ≤ depthEntries entries
  | [] => Nat.le_refl 0
  | (_, value) :: rest => by
    rw [searchLevelsEntries, depthEntries]
    exact max_le_max (searchLevels_le_depth value) (searchLevelsEntries_le_depthEntries rest)

end

end

end Document

/-! ## Texts of payloads -/

namespace Secret

section
variable {room : Nat} {response : Exchange.Response}

theorem search_of_le {payload : Fields} (hroom : (Document.object payload).searchLevels ≤ room) :
    search room payload = .ok ((Document.object payload).nonFiniteLocations.map Location.written) := by
  rw [search, if_pos hroom, nonFinitePlaces_eq]

theorem payloadText_of_holdsNonFinite
    (hroom : (Document.object response.payload).searchLevels ≤ room)
    (hproper : (Document.object response.payload).Proper)
    (hsets : (Document.object response.payload).SetsFinite)
    (h : (Document.object response.payload).HoldsNonFinite) :
    payloadText room response = .error
      (.nonFinite ((Document.object response.payload).nonFiniteLocations.map Location.written)) := by
  rw [payloadText, search_of_le hroom]
  cases hlocations : (Document.object response.payload).nonFiniteLocations with
  | nil => exact absurd h ((hproper.nonFiniteLocations_eq_nil_iff hsets).mp hlocations)
  | cons location rest => rfl

theorem payloadText_of_finite (hroom : (Document.object response.payload).searchLevels ≤ room)
    (hproper : (Document.object response.payload).Proper)
    (h : ¬ (Document.object response.payload).HoldsNonFinite) :
    payloadText room response = response.json.mapError .unprintable := by
  rw [payloadText, search_of_le hroom]
  cases hlocations : (Document.object response.payload).nonFiniteLocations with
  | nil => rfl
  | cons location rest =>
    have hmem : location ∈ (Document.object response.payload).nonFiniteLocations := by
      rw [hlocations]
      exact List.mem_cons_self
    obtain ⟨value, hat, hvalue⟩ := (hproper.mem_nonFiniteLocations_iff location).mp hmem
    exact absurd ⟨value, Document.occurs_of_at? hat, hvalue⟩ h

theorem searchLevels_le_of_payloadText {text : String} (h : payloadText room response = .ok text) :
    (Document.object response.payload).searchLevels ≤ room := by
  by_contra hroom
  rw [payloadText, search, if_neg hroom] at h
  cases h

/-- A payload that has a text is printed, whatever the room. -/
theorem json_of_payloadText {text : String} (h : payloadText room response = .ok text) :
    response.json = .ok text := by
  unfold payloadText at h
  split at h
  · cases h
  · cases hjson : response.json with
    | ok other =>
      rw [hjson] at h
      cases h
      rfl
    | error reason =>
      rw [hjson] at h
      cases h
  · cases h

end

end Secret

end AuthBroker
