import AuthBroker.Proofs.Input.Schema
import Mathlib.Data.List.Forall2

/-! # What is collected from a schema

A schema is refused when it is no table, when its properties are no table, or when a field declares a
place that is no list of texts; the first such field is named (`Refused`). Null stands for nothing in
both of the former. What is accepted declares, in the order of the schema, the keys of the fields that
have a place (`Accepted`). Every schema is refused or accepted, and for one reason or with one
collection only, since these are the answers of a function (`declared_told`). -/

namespace AuthBroker.Input

/-! ## Specification -/

/-- Why a schema is refused. Only a field before which all is well is named. -/
inductive Refused : Document → SchemaDefect → Prop
  | notObject {schema : Document} : schema ≠ .null → (∀ entries, schema ≠ .object entries) →
      Refused schema .notObject
  | propertiesNotObject {schema : Fields} {value : Document} :
      schema.get? propertiesKey = some value → value ≠ .null →
      (∀ properties, value ≠ .object properties) →
      Refused (.object schema) .propertiesNotObject
  | pathNotTexts {schema before after : Fields} {field : String} {fieldSchema : Document} :
      schema.get? propertiesKey = some (.object (before ++ (field, fieldSchema) :: after)) →
      (∀ entry ∈ before, WellFormedField entry.2) → ¬ WellFormedField fieldSchema →
      Refused (.object schema) (.pathNotTexts field)

/-- The declarations of some fields, in their order: the keys of each field that has a place, as they
are, and nothing for the others. -/
inductive Collected : Fields → Declarations → Prop
  | nil : Collected [] []
  | declared {field : String} {entries rest : Fields} {keys : List String}
      {declarations : Declarations} : entries.get? pathKey = some (.list (keys.map .text)) →
      Collected rest declarations →
      Collected ((field, .object entries) :: rest) ((field, keys) :: declarations)
  | placeless {field : String} {schema : Document} {rest : Fields} {declarations : Declarations} :
      Placeless schema → Collected rest declarations →
      Collected ((field, schema) :: rest) declarations

/-- A schema is accepted with its declarations. -/
inductive Accepted : Document → Declarations → Prop
  | null : Accepted .null []
  | noProperties {schema : Fields} :
      schema.get? propertiesKey = none ∨ schema.get? propertiesKey = some .null →
      Accepted (.object schema) []
  | properties {schema properties : Fields} {declarations : Declarations} :
      schema.get? propertiesKey = some (.object properties) →
      Collected properties declarations → Accepted (.object schema) declarations

/-! ## All fields -/

/-- Collecting stops at the first field that is not well formed, and names it. -/
theorem collect_eq_error_iff (properties : Fields) (defect : SchemaDefect) :
    collect properties = .error defect ↔
      ∃ before field schema after, properties = before ++ (field, schema) :: after ∧
        (∀ entry ∈ before, WellFormedField entry.2) ∧ ¬ WellFormedField schema ∧
        defect = .pathNotTexts field := by
  constructor
  · intro h
    induction properties with
    | nil => cases h
    | cons entry rest ih =>
      obtain ⟨field, schema⟩ := entry
      rcases placeless_or_texts schema with hnone | ⟨entries, keys, rfl, htexts⟩ | hodd
      · rw [collect_of_placeless hnone] at h
        obtain ⟨before, other, otherSchema, after, rfl, hbefore, hother⟩ := ih h
        exact ⟨(field, schema) :: before, other, otherSchema, after, rfl,
          List.forall_mem_cons.mpr ⟨hnone.wellFormed, hbefore⟩, hother⟩
      · rw [collect_of_texts htexts] at h
        obtain ⟨before, other, otherSchema, after, rfl, hbefore, hother⟩ :=
          ih (error_of_map h)
        exact ⟨(field, .object entries) :: before, other, otherSchema, after, rfl,
          List.forall_mem_cons.mpr ⟨wellFormedField_of_texts htexts, hbefore⟩, hother⟩
      · rw [collect_of_not_wellFormed hodd] at h
        exact ⟨[], field, schema, rest, rfl, nofun, hodd, (Except.error.inj h).symm⟩
  · rintro ⟨before, field, schema, after, rfl, hbefore, hodd, rfl⟩
    induction before with
    | nil => exact collect_of_not_wellFormed hodd field after
    | cons entry before ih =>
      obtain ⟨first, firstSchema⟩ := entry
      have hrest := ih fun entry hentry => hbefore entry (List.mem_cons_of_mem _ hentry)
      rcases placeless_or_texts firstSchema with hnone | ⟨entries, keys, rfl, htexts⟩ | hfirst
      · rw [List.cons_append, collect_of_placeless hnone, hrest]
      · rw [List.cons_append, collect_of_texts htexts, hrest]
        rfl
      · exact absurd (hbefore _ List.mem_cons_self) hfirst

theorem collect_eq_ok_iff (properties : Fields) (declarations : Declarations) :
    collect properties = .ok declarations ↔ Collected properties declarations := by
  constructor
  · intro h
    induction properties generalizing declarations with
    | nil =>
      cases h
      exact .nil
    | cons entry rest ih =>
      obtain ⟨field, schema⟩ := entry
      rcases placeless_or_texts schema with hnone | ⟨entries, keys, rfl, htexts⟩ | hodd
      · rw [collect_of_placeless hnone] at h
        exact .placeless hnone (ih declarations h)
      · rw [collect_of_texts htexts] at h
        obtain ⟨others, hothers, rfl⟩ := exists_of_map_eq_ok h
        exact .declared htexts (ih others hothers)
      · rw [collect_of_not_wellFormed hodd] at h
        cases h
  · intro h
    induction h with
    | nil => rfl
    | declared htexts _ ih =>
      rw [collect_of_texts htexts, ih]
      rfl
    | placeless hnone _ ih => rw [collect_of_placeless hnone, ih]

/-! ## Schemas -/

theorem refused_iff (schema : Document) (defect : SchemaDefect) :
    declared schema = .error defect ↔ Refused schema defect := by
  constructor
  · intro h
    cases schema with
    | null => cases h
    | object schema =>
      rw [declared] at h
      split at h
      · cases h
      · cases h
      · rename_i properties hproperties
        obtain ⟨before, field, fieldSchema, after, rfl, hbefore, hodd, rfl⟩ :=
          (collect_eq_error_iff properties defect).mp h
        exact .pathNotTexts hproperties hbefore hodd
      · rename_i value hnull hobject hvalue
        cases h
        exact .propertiesNotObject hvalue (fun heq => hnull heq)
          fun properties heq => hobject properties heq
    | _ =>
      cases h
      exact .notObject (by simp) (by simp)
  · intro h
    cases h with
    | notObject hnull hobject =>
      cases schema with
      | null => exact absurd rfl hnull
      | object entries => exact absurd rfl (hobject entries)
      | _ => rfl
    | @propertiesNotObject schema value hvalue hnull hobject =>
      rw [declared, hvalue]
      cases value with
      | null => exact absurd rfl hnull
      | object properties => exact absurd rfl (hobject properties)
      | _ => rfl
    | pathNotTexts hproperties hbefore hodd =>
      rw [declared, hproperties]
      exact (collect_eq_error_iff _ _).mpr ⟨_, _, _, _, rfl, hbefore, hodd, rfl⟩

theorem accepted_iff (schema : Document) (declarations : Declarations) :
    declared schema = .ok declarations ↔ Accepted schema declarations := by
  constructor
  · intro h
    cases schema with
    | null =>
      cases h
      exact .null
    | object schema =>
      rw [declared] at h
      split at h
      · rename_i hvalue
        cases h
        exact .noProperties (.inl hvalue)
      · rename_i hvalue
        cases h
        exact .noProperties (.inr hvalue)
      · rename_i properties hproperties
        exact .properties hproperties ((collect_eq_ok_iff properties declarations).mp h)
      · cases h
    | _ => cases h
  · intro h
    cases h with
    | null => rfl
    | noProperties hvalue =>
      rcases hvalue with hvalue | hvalue
      · rw [declared, hvalue]
      · rw [declared, hvalue]
    | properties hproperties hcollected =>
      rw [declared, hproperties]
      exact (collect_eq_ok_iff _ _).mpr hcollected

/-- Some field that is not well formed comes first. -/
theorem exists_first_malformed {properties : Fields} {entry : String × Document}
    (hentry : entry ∈ properties) (hodd : ¬ WellFormedField entry.2) :
    ∃ before field schema after, properties = before ++ (field, schema) :: after ∧
      (∀ entry ∈ before, WellFormedField entry.2) ∧ ¬ WellFormedField schema := by
  have hcollect : ∃ defect, collect properties = .error defect := by
    cases hcollect : collect properties with
    | error defect => exact ⟨defect, rfl⟩
    | ok declarations => exact absurd (wellFormedField_of_collect hcollect entry hentry) hodd
  obtain ⟨defect, hdefect⟩ := hcollect
  obtain ⟨before, field, schema, after, heq, hbefore, hschema, -⟩ :=
    (collect_eq_error_iff properties defect).mp hdefect
  exact ⟨before, field, schema, after, heq, hbefore, hschema⟩

/-- A schema is refused exactly when it is neither null nor a table, or has properties that are neither
null nor a table, or a property that declares a place which is no list of texts. -/
theorem exists_refused_iff (schema : Document) :
    (∃ defect, Refused schema defect) ↔
      (schema ≠ .null ∧ ∀ entries, schema ≠ .object entries) ∨
      ∃ (entries : Fields) (value : Document), schema = .object entries ∧
        entries.get? propertiesKey = some value ∧ value ≠ .null ∧
        ∀ properties : Fields, value = .object properties →
          ∃ property ∈ properties, ¬ WellFormedField property.2 := by
  constructor
  · rintro ⟨defect, hrefused⟩
    cases hrefused with
    | notObject hnull hobject => exact .inl ⟨hnull, hobject⟩
    | propertiesNotObject hvalue hnull hobject =>
      exact .inr ⟨_, _, rfl, hvalue, hnull, fun properties heq => absurd heq (hobject properties)⟩
    | pathNotTexts hproperties _ hodd =>
      refine .inr ⟨_, _, rfl, hproperties, nofun, fun properties heq => ?_⟩
      cases heq
      exact ⟨_, List.mem_append_right _ List.mem_cons_self, hodd⟩
  · rintro (⟨hnull, hobject⟩ | ⟨entries, value, rfl, hvalue, hnull, hodd⟩)
    · exact ⟨_, .notObject hnull hobject⟩
    · by_cases hobject : ∃ properties, value = .object properties
      · obtain ⟨properties, rfl⟩ := hobject
        obtain ⟨property, hproperty, hplace⟩ := hodd properties rfl
        obtain ⟨before, field, fieldSchema, after, rfl, hbefore, hfield⟩ :=
          exists_first_malformed hproperty hplace
        exact ⟨_, .pathNotTexts hvalue hbefore hfield⟩
      · exact ⟨_, .propertiesNotObject hvalue hnull fun properties heq => hobject ⟨properties, heq⟩⟩

theorem SchemaDefect.exists_message_eq :
    ∃ front back, ∀ field, (pathNotTexts field).message = front ++ field ++ back := by
  refine ⟨"Invalid OAuth config specification: " ++ ("'" ++ pathKey ++ "' of '"),
    "' must be a list of strings", fun field => ?_⟩
  change _ ++ ("'" ++ pathKey ++ "' of '" ++ field ++ _) = _
  generalize "Invalid OAuth config specification: " = opening
  generalize "'" ++ pathKey ++ "' of '" = before
  rw [← String.append_assoc, ← String.append_assoc]

/-- A schema is refused for the first thing that is wrong with it, with a message that names the field
if it is the place of a field, and nothing is collected then. Otherwise the declarations are collected
in the order of the schema, and each becomes one expression under the name of its field. -/
theorem declared_told (schema : Document) :
    ((∃ defect, declared schema = .error defect) ↔
      (schema ≠ .null ∧ ∀ entries, schema ≠ .object entries) ∨
      ∃ (entries : Fields) (value : Document), schema = .object entries ∧
        entries.get? propertiesKey = some value ∧ value ≠ .null ∧
        ∀ properties : Fields, value = .object properties →
          ∃ property ∈ properties, ¬ WellFormedField property.2) ∧
    (∀ defect, declared schema = .error defect ↔ Refused schema defect) ∧
    (∃ front back, ∀ field, (SchemaDefect.pathNotTexts field).message = front ++ field ++ back) ∧
    (∀ declarations, declared schema = .ok declarations ↔ Accepted schema declarations) ∧
    ∀ declarations : Declarations,
      (expressions declarations).keys = declarations.keys ∧
      List.Forall₂ (fun declaration entry => entry = (declaration.1, expression declaration.2))
        declarations (expressions declarations) := by
  refine ⟨?_, refused_iff schema, ?_, accepted_iff schema, fun declarations => ⟨?_, ?_⟩⟩
  · simp only [refused_iff]
    exact exists_refused_iff schema
  · exact SchemaDefect.exists_message_eq
  · rw [expressions, Table.keys, List.map_map]
    rfl
  · exact List.forall₂_map_right_iff.mpr (List.forall₂_same.mpr fun _ _ => rfl)

example : declared (.object [("properties", .object [
      ("client", .object [("path_in_connector_config", .list [.text "id"])]),
      ("note", .text "no table"),
      ("secret", .object [("path_in_connector_config", .list [.text "key", .int 0])]),
      ("token", .object [("path_in_connector_config", .null)])])]) =
    .error (.pathNotTexts "secret") := by cbv

end AuthBroker.Input
