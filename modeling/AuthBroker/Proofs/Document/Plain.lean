import AuthBroker.Proofs.Agreement
import AuthBroker.Proofs.Document.Json
import AuthBroker.Proofs.Document.Occurrences

/-! # What is printed, and what it reads back as

A document is printed if it holds no foreign value and is nested no deeper than the levels allow
(`json_told`). In the text tuples and sets are lists, so it is the text of a document without any
(`plain`), and that is JSON-like unless a number is not finite (`Proper.jsonLike_plain`). -/

namespace AuthBroker.Document

section
variable {d part value : Document} {levels : Nat}

/-! ## Which documents are printed -/

def isNonFinite : Document → Bool
  | .float x => !x.isFinite
  | _ => false

def HoldsNonFinite (d : Document) : Prop :=
  d.Holds fun value => value.isNonFinite = true

def HoldsForeign (d : Document) : Prop :=
  d.Holds fun value => ∃ description, value = .foreign description

theorem depth_le_succ_iff (d : Document) (levels : Nat) :
    d.depth ≤ levels + 1 ↔ ∀ part ∈ d.parts, part.depth ≤ levels := by
  cases d with
  | list items | tuple items | set items =>
    rw [depth, Nat.add_le_add_iff_right, depthItems_le_iff]
    rfl
  | object entries =>
    rw [depth, Nat.add_le_add_iff_right, depthEntries_le_iff, parts, Table.values, List.forall_mem_map]
  | _ => simp [depth, parts]

/-- What is in a printed document is printed, with a level less. -/
theorem exists_json_of_mem_parts {cs : List Char} (h : json (levels + 1) d = .ok cs)
    (hpart : part ∈ d.parts) : ∃ cs, json levels part = .ok cs := by
  cases d with
  | list items | tuple items | set items =>
    rw [json, jsonItems_eq_mapM] at h
    obtain ⟨_, hitems, -⟩ := exists_of_map_eq_ok h
    obtain ⟨_, hmapM, -⟩ := exists_of_map_eq_ok hitems
    exact exists_of_mapM_eq_ok hmapM part hpart
  | object entries =>
    obtain ⟨entry, hentry, rfl⟩ := List.mem_map.mp hpart
    rw [json, jsonEntries_eq_mapM] at h
    obtain ⟨_, hentries, -⟩ := exists_of_map_eq_ok h
    obtain ⟨_, hmapM, -⟩ := exists_of_map_eq_ok hentries
    obtain ⟨_, hmember⟩ := exists_of_mapM_eq_ok hmapM entry hentry
    obtain ⟨cs, hcs, -⟩ := exists_of_map_eq_ok hmember
    exact ⟨cs, hcs⟩
  | _ => cases hpart

/-- A document that is not printed is foreign, or something in it is the reason. -/
theorem foreign_or_part_of_json_eq_error {reason : Unprintable}
    (h : json (levels + 1) d = .error reason) :
    (∃ description, d = .foreign description) ∧ reason = .foreign ∨
      ∃ part ∈ d.parts, json levels part = .error reason := by
  cases d with
  | list items | tuple items | set items =>
    rw [json, jsonItems_eq_mapM] at h
    exact .inr (exists_of_mapM_eq_error (error_of_map (error_of_map h)))
  | object entries =>
    rw [json, jsonEntries_eq_mapM] at h
    obtain ⟨entry, hentry, hmember⟩ := exists_of_mapM_eq_error (error_of_map (error_of_map h))
    exact .inr ⟨entry.2, List.mem_map_of_mem hentry, error_of_map hmember⟩
  | foreign description =>
    rw [json] at h
    cases h
    exact .inl ⟨⟨description, rfl⟩, rfl⟩
  | bool value => cases value <;> cases h
  | _ => cases h

theorem json_told (d : Document) : ∀ levels,
    (∀ cs, json levels d = .ok cs → d.depth ≤ levels ∧ ¬ d.HoldsForeign) ∧
    ∀ reason, json levels d = .error reason →
      reason = .foreign ∧ d.HoldsForeign ∨ reason = .tooDeep ∧ levels < d.depth := by
  induction d using induction_parts with
  | h d ih =>
    intro levels
    cases levels with
    | zero =>
      rw [json]
      refine ⟨fun cs h => ?_, fun reason h => .inr ⟨(Except.error.inj h).symm, d.one_le_depth⟩⟩
      cases h
    | succ levels =>
      constructor
      · intro cs h
        rw [depth_le_succ_iff, HoldsForeign, holds_iff]
        refine ⟨fun part hpart => ?_, ?_⟩
        · obtain ⟨cs, hcs⟩ := exists_json_of_mem_parts h hpart
          exact ((ih part hpart levels).1 cs hcs).1
        · rintro (⟨description, rfl⟩ | ⟨part, hpart, hforeign⟩)
          · cases h
          · obtain ⟨cs, hcs⟩ := exists_json_of_mem_parts h hpart
            exact ((ih part hpart levels).1 cs hcs).2 hforeign
      · intro reason h
        rcases foreign_or_part_of_json_eq_error h with ⟨hforeign, rfl⟩ | ⟨part, hpart, hfails⟩
        · exact .inl ⟨rfl, d, .here, hforeign⟩
        · rcases (ih part hpart levels).2 reason hfails with ⟨rfl, hforeign⟩ | ⟨rfl, hdeep⟩
          · exact .inl ⟨rfl, (holds_iff _ d).mpr (.inr ⟨part, hpart, hforeign⟩)⟩
          · refine .inr ⟨rfl, ?_⟩
            by_contra hle
            have := (depth_le_succ_iff d levels).mp (by omega) part hpart
            omega

/-! ## Documents without tuples and sets -/

mutual

/-- The document with lists in place of tuples and sets. -/
def plain : Document → Document
  | .list items | .tuple items | .set items => .list (plainItems items)
  | .object entries => .object (plainEntries entries)
  | .null => .null
  | .bool value => .bool value
  | .int value => .int value
  | .float value => .float value
  | .text value => .text value
  | .foreign description => .foreign description

def plainItems : List Document → List Document
  | [] => []
  | item :: rest => plain item :: plainItems rest

def plainEntries : List (String × Document) → List (String × Document)
  | [] => []
  | (key, value) :: rest => (key, plain value) :: plainEntries rest

end

theorem plainItems_eq_map (items : List Document) : plainItems items = items.map plain := by
  induction items with
  | nil => rfl
  | cons item rest ih => rw [plainItems, ih, List.map_cons]

theorem plainEntries_eq_mapValues (entries : Fields) :
    plainEntries entries = Table.mapValues (fun _ => plain) entries := by
  induction entries with
  | nil => rfl
  | cons entry rest ih =>
    rw [plainEntries, ih]
    rfl

mutual

/-- Tuples and sets are printed as lists. -/
theorem json_plain : ∀ (levels : Nat) (d : Document), json levels d.plain = json levels d
  | 0, d => by rw [json, json]
  | levels + 1, .list items => by rw [plain, json, json, jsonItems_plain levels items]
  | levels + 1, .tuple items => by rw [plain, json, json, jsonItems_plain levels items]
  | levels + 1, .set items => by rw [plain, json, json, jsonItems_plain levels items]
  | levels + 1, .object entries => by rw [plain, json, json, jsonEntries_plain levels entries]
  | _ + 1, .null | _ + 1, .bool _ | _ + 1, .int _ | _ + 1, .float _ | _ + 1, .text _
  | _ + 1, .foreign _ => rfl

theorem jsonItems_plain : ∀ (levels : Nat) (items : List Document),
    jsonItems levels (plainItems items) = jsonItems levels items
  | _, [] => rfl
  | levels, [item] => by
    rw [plainItems, plainItems, jsonItems, jsonItems, json_plain levels item]
  | levels, item :: next :: rest => by
    have hrest := jsonItems_plain levels (next :: rest)
    rw [plainItems] at hrest
    rw [plainItems, plainItems, jsonItems, jsonItems, json_plain levels item, hrest]

theorem jsonEntries_plain : ∀ (levels : Nat) (entries : List (String × Document)),
    jsonEntries levels (plainEntries entries) = jsonEntries levels entries
  | _, [] => rfl
  | levels, [(key, value)] => by
    rw [plainEntries, plainEntries, jsonEntries, jsonEntries, json_plain levels value]
  | levels, (key, value) :: next :: rest => by
    have hrest := jsonEntries_plain levels (next :: rest)
    rw [plainEntries] at hrest
    rw [plainEntries, plainEntries, jsonEntries, jsonEntries, json_plain levels value, hrest]

end

mutual

theorem depth_plain : ∀ d : Document, d.plain.depth = d.depth
  | .list items | .tuple items | .set items => by
    rw [plain, depth, depth, depthItems_plain items]
  | .object entries => by rw [plain, depth, depth, depthEntries_plain entries]
  | .null | .bool _ | .int _ | .float _ | .text _ | .foreign _ => rfl

theorem depthItems_plain : ∀ items : List Document, depthItems (plainItems items) = depthItems items
  | [] => rfl
  | item :: rest => by rw [plainItems, depthItems, depthItems, depth_plain item, depthItems_plain rest]

theorem depthEntries_plain : ∀ entries : List (String × Document),
    depthEntries (plainEntries entries) = depthEntries entries
  | [] => rfl
  | (key, value) :: rest => by
    rw [plainEntries, depthEntries, depthEntries, depth_plain value, depthEntries_plain rest]

end

theorem child?_plain {d child : Document} {place : Place} (h : d.child? place = some child) :
    d.plain.child? place = some child.plain := by
  cases d with
  | list items | tuple items =>
    cases place with
    | key name => cases h
    | item position =>
      have hitem : items[position]? = some child := h
      rw [plain, child?, plainItems_eq_map, List.getElem?_map, hitem]
      rfl
  | object entries =>
    cases place with
    | key name =>
      have hvalue : Table.get? entries name = some child := h
      rw [plain, child?, plainEntries_eq_mapValues, Table.get?_mapValues, hvalue]
      rfl
    | item position => cases h
  | _ => cases h

/-- What is at a location is there in the plain document. -/
theorem at?_plain {d value : Document} {location : Location} (h : d.at? location = some value) :
    d.plain.at? location = some value.plain := by
  induction location generalizing d with
  | nil =>
    cases h
    rfl
  | cons place rest ih =>
    obtain ⟨child, hchild, hrest⟩ := Option.bind_eq_some_iff.mp h
    rw [at?, child?_plain hchild, Option.bind_some]
    exact ih hrest

theorem Proper.jsonLike_plain {d : Document} (h : d.Proper) (hfinite : ¬ d.HoldsNonFinite)
    (hknown : ¬ d.HoldsForeign) : JsonLike d.plain := by
  induction h with
  | null => exact .null
  | bool value => exact .bool value
  | int value => exact .int value
  | float x =>
    cases x with
    | finite negative rank => exact .float negative rank
    | _ => exact absurd ⟨_, .here, rfl⟩ hfinite
  | text value => exact .text value
  | foreign description => exact absurd ⟨_, .here, description, rfl⟩ hknown
  | @list items _ ih | @tuple items _ ih | @set items _ ih =>
    rw [plain, plainItems_eq_map]
    refine .list (List.forall_mem_map.mpr fun item hitem => ?_)
    exact ih item hitem (fun h => hfinite (h.of_mem_parts hitem)) fun h => hknown (h.of_mem_parts hitem)
  | @object entries hkeys _ ih =>
    rw [plain, plainEntries_eq_mapValues]
    refine .object ?_ (List.forall_mem_map.mpr fun entry hentry => ?_)
    · rwa [Table.keys_mapValues]
    · have hpart : entry.2 ∈ (Document.object entries).parts := List.mem_map_of_mem hentry
      exact ih entry hentry (fun h => hfinite (h.of_mem_parts hpart)) fun h =>
        hknown (h.of_mem_parts hpart)

end

end AuthBroker.Document
