import AuthBroker.Proofs.Path.Location

/-! # Every value in a document

`Occurs` tells what is in a document, at every depth and in containers of every kind. `occurrences`
lists what is in it outside of sets, in the order of the document, each value with its location. In a
proper document these are the values that are found at locations (`Proper.mem_occurrences_iff`), and
every location comes once (`Proper.occurrences_ordered`). -/

namespace AuthBroker.Document

/-! ## Containers of every kind -/

/-- What a document holds one level down. -/
def parts : Document → List Document
  | .list items | .tuple items | .set items => items
  | .object entries => Table.values entries
  | .null | .bool _ | .int _ | .float _ | .text _ | .foreign _ => []

theorem sizeOf_lt_of_mem_parts {d part : Document} (h : part ∈ d.parts) : sizeOf part < sizeOf d := by
  cases d with
  | list items | tuple items | set items =>
    have hlt : sizeOf part < sizeOf items := List.sizeOf_lt_of_mem h
    simp only [list.sizeOf_spec, tuple.sizeOf_spec, set.sizeOf_spec]
    omega
  | object entries =>
    obtain ⟨⟨key, value⟩, hentry, rfl⟩ := List.mem_map.mp h
    have hlt : sizeOf (key, value) < sizeOf entries := List.sizeOf_lt_of_mem hentry
    simp only [object.sizeOf_spec, Prod.mk.sizeOf_spec] at hlt ⊢
    omega
  | _ => cases h

/-- A document has a property as soon as it has it whenever all of its parts have. -/
theorem induction_parts {motive : Document → Prop}
    (h : ∀ d, (∀ part ∈ d.parts, motive part) → motive d) (d : Document) : motive d :=
  h d fun part hpart =>
    have := sizeOf_lt_of_mem_parts hpart
    induction_parts h part
termination_by sizeOf d

/-- A value is the document, or somewhere in it. -/
inductive Occurs (value : Document) : Document → Prop
  | here : Occurs value value
  | inside {d part : Document} : part ∈ d.parts → Occurs value part → Occurs value d

theorem Occurs.trans {value mid d : Document} (inner : Occurs value mid) (outer : Occurs mid d) :
    Occurs value d := by
  induction outer with
  | here => exact inner
  | inside hpart _ ih => exact .inside hpart ih

/-- Somewhere in the document there is a value of a kind. -/
def Holds (kind : Document → Prop) (d : Document) : Prop :=
  ∃ value, Occurs value d ∧ kind value

theorem holds_iff (kind : Document → Prop) (d : Document) :
    d.Holds kind ↔ kind d ∨ ∃ part ∈ d.parts, part.Holds kind := by
  constructor
  · rintro ⟨value, hoccurs, hkind⟩
    cases hoccurs with
    | here => exact .inl hkind
    | inside hpart hinside => exact .inr ⟨_, hpart, value, hinside, hkind⟩
  · rintro (hkind | ⟨part, hpart, value, hinside, hkind⟩)
    · exact ⟨d, .here, hkind⟩
    · exact ⟨value, .inside hpart hinside, hkind⟩

theorem holds_iff_of_leaf {kind : Document → Prop} {d : Document} (h : d.parts = []) :
    d.Holds kind ↔ kind d := by
  rw [holds_iff, h]
  simp

theorem Holds.of_mem_parts {kind : Document → Prop} {d part : Document} (h : part.Holds kind)
    (hpart : part ∈ d.parts) : d.Holds kind :=
  (holds_iff kind d).mpr (.inr ⟨part, hpart, h⟩)

theorem mem_parts_of_child? {d child : Document} {place : Place}
    (h : d.child? place = some child) : child ∈ d.parts := by
  cases d with
  | list items | tuple items =>
    cases place with
    | key name => cases h
    | item position => exact List.mem_of_getElem? h
  | object entries =>
    cases place with
    | key name => exact List.mem_map_of_mem (Table.mem_of_get? h)
    | item position => cases h
  | _ => cases h

/-- What is at a location is in the document. -/
theorem occurs_of_at? {d value : Document} {location : Location} (h : d.at? location = some value) :
    Occurs value d := by
  induction location generalizing d with
  | nil =>
    cases h
    exact .here
  | cons place rest ih =>
    obtain ⟨child, hchild, hrest⟩ := Option.bind_eq_some_iff.mp h
    exact .inside (mem_parts_of_child? hchild) (ih hrest)

/-! ## Values with their locations -/

/-- What lies at a place, seen from above the place. -/
def under (place : Place) (occurrence : Location × Document) : Location × Document :=
  (place :: occurrence.1, occurrence.2)

mutual

/-- The values in a document with their locations. A list, tuple or table comes before what it holds,
and a set is there as a whole. -/
def occurrences : Document → List (Location × Document)
  | .list items => ([], .list items) :: itemOccurrences 0 items
  | .tuple items => ([], .tuple items) :: itemOccurrences 0 items
  | .set items => [([], .set items)]
  | .object entries => ([], .object entries) :: entryOccurrences entries
  | .null => [([], .null)]
  | .bool value => [([], .bool value)]
  | .int value => [([], .int value)]
  | .float value => [([], .float value)]
  | .text value => [([], .text value)]
  | .foreign description => [([], .foreign description)]

/-- The values in the items of a list or tuple from a position on. -/
def itemOccurrences : Nat → List Document → List (Location × Document)
  | _, [] => []
  | position, item :: rest =>
    (occurrences item).map (under (.item position)) ++ itemOccurrences (position + 1) rest

def entryOccurrences : List (String × Document) → List (Location × Document)
  | [] => []
  | (key, value) :: rest => (occurrences value).map (under (.key key)) ++ entryOccurrences rest

end

theorem itemOccurrences_eq (items : List Document) (position : Nat) :
    itemOccurrences position items =
      (items.zipIdx position).flatMap fun item => (occurrences item.1).map (under (.item item.2)) := by
  induction items generalizing position with
  | nil =>
    rw [itemOccurrences]
    rfl
  | cons item rest ih => rw [itemOccurrences, ih, List.zipIdx_cons, List.flatMap_cons]

theorem entryOccurrences_eq (entries : Fields) :
    entryOccurrences entries =
      entries.flatMap fun entry => (occurrences entry.2).map (under (.key entry.1)) := by
  induction entries with
  | nil =>
    rw [entryOccurrences]
    rfl
  | cons entry rest ih => rw [entryOccurrences, ih, List.flatMap_cons]

/-- In a document there is the document itself, and what is in its children. -/
theorem occurrences_eq (d : Document) :
    d.occurrences = ([], d) ::
      d.children.flatMap fun node => node.2.occurrences.map (under node.1) := by
  cases d with
  | list items | tuple items => rw [occurrences, itemOccurrences_eq, children, List.flatMap_map]
  | object entries => rw [occurrences, entryOccurrences_eq, children, List.flatMap_map]
  | _ => rfl

theorem mem_occurrences_nil_iff (d value : Document) :
    ([], value) ∈ d.occurrences ↔ value = d := by
  rw [occurrences_eq]
  simp [under]

theorem mem_occurrences_cons_iff (d value : Document) (place : Place) (rest : Location) :
    (place :: rest, value) ∈ d.occurrences ↔
      ∃ child, (place, child) ∈ d.children ∧ (rest, value) ∈ child.occurrences := by
  rw [occurrences_eq]
  simp only [List.mem_cons, List.mem_flatMap, List.mem_map, under, Prod.mk.injEq, List.cons.injEq]
  constructor
  · rintro (⟨hnil, -⟩ | ⟨⟨other, child⟩, hchild, ⟨location, found⟩, hfound, ⟨rfl, rfl⟩, rfl⟩)
    · cases hnil
    · exact ⟨child, hchild, hfound⟩
  · rintro ⟨child, hchild, hvalue⟩
    exact .inr ⟨(place, child), hchild, (rest, value), hvalue, ⟨rfl, rfl⟩, rfl⟩

/-- In a proper document there is what is found at the locations. -/
theorem Proper.mem_occurrences_iff {d : Document} (h : d.Proper) (location : Location)
    (value : Document) : (location, value) ∈ d.occurrences ↔ d.at? location = some value := by
  induction location generalizing d with
  | nil => rw [mem_occurrences_nil_iff, at?, Option.some.injEq, eq_comm]
  | cons place rest ih =>
    simp only [mem_occurrences_cons_iff, h.mem_children_iff, at?, Option.bind_eq_some_iff]
    refine exists_congr fun child => and_congr_right fun hchild => ?_
    exact ih (h.child hchild)

theorem Proper.occurrences_ordered_of_child {d : Document} (h : d.Proper)
    (hbelow : ∀ place child, d.child? place = some child →
      child.occurrences.Pairwise fun first second => child.Before first.1 second.1) :
    d.occurrences.Pairwise fun first second => d.Before first.1 second.1 := by
  rw [occurrences_eq, List.pairwise_cons]
  constructor
  · intro occurrence hmem
    obtain ⟨node, -, hnode⟩ := List.mem_flatMap.mp hmem
    obtain ⟨below, -, rfl⟩ := List.mem_map.mp hnode
    exact .above
  · refine h.ordered_flatMap (List.Sublist.refl _) fun node hnode => ?_
    exact hbelow node.1 node.2 ((h.mem_children_iff _ _).mp hnode)

/-- The values come in the order of the document. -/
theorem Proper.occurrences_ordered {d : Document} (h : d.Proper) :
    d.occurrences.Pairwise fun first second => d.Before first.1 second.1 := by
  induction h with
  | @list items hitems ih =>
    refine (Proper.list hitems).occurrences_ordered_of_child fun place child hchild => ?_
    cases place with
    | key name => cases hchild
    | item position => exact ih child (List.mem_of_getElem? hchild)
  | @tuple items hitems ih =>
    refine (Proper.tuple hitems).occurrences_ordered_of_child fun place child hchild => ?_
    cases place with
    | key name => cases hchild
    | item position => exact ih child (List.mem_of_getElem? hchild)
  | @object entries hkeys hvalues ih =>
    refine (Proper.object hkeys hvalues).occurrences_ordered_of_child fun place child hchild => ?_
    cases place with
    | key name => exact ih _ (Table.mem_of_get? hchild)
    | item position => cases hchild
  | _ => exact List.pairwise_singleton _ _

end AuthBroker.Document
