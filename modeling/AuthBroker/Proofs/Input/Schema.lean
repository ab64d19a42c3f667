import AuthBroker.Connector
import AuthBroker.Input.Declared
import AuthBroker.Proofs.Agreement
import AuthBroker.Proofs.Document.Proper

/-! # What a user-input schema declares

A schema is well formed when its properties are a table, if there are any, and every field that
declares a place declares a list of texts. `Declares` says which keys a field declares. Fields are
collected one by one: a field has no place, a list of texts for one, or something that is refused
(`placeless_or_texts`). A well formed schema is accepted with what its fields declare
(`declared_of_wellFormed`), and only such a schema is. -/

namespace AuthBroker.Input

/-! ## Schemas -/

/-- A field's place, where it declares one, is a list of texts. -/
def WellFormedField (schema : Document) : Prop :=
  ∀ entries place, schema = .object entries → Table.get? entries pathKey = some place →
    ∃ keys : List String, place = .list (keys.map .text)

/-- A field's schema is no table, or a table without a place. -/
def Placeless (schema : Document) : Prop :=
  ∀ entries : Fields, schema = .object entries → entries.get? pathKey = none

/-- The properties of a schema are absent, null, or a table of well formed fields. -/
def WellFormed (userInput : Option Fields) : Prop :=
  ∀ schema value, userInput = some schema → schema.get? propertiesKey = some value →
    value = .null ∨
      ∃ properties : Fields, value = .object properties ∧
        ∀ entry ∈ properties, WellFormedField entry.2

/-- A schema declares that a field's value lies where the keys lead. -/
def Declares (userInput : Option Fields) (field : String) (keys : List String) : Prop :=
  ∃ (schema properties entries : Fields), userInput = some schema ∧
    schema.get? propertiesKey = some (.object properties) ∧
    properties.get? field = some (.object entries) ∧
    entries.get? pathKey = some (.list (keys.map .text))

/-! ## Tables and lists of texts -/

theorem entries?_eq_some_iff (d : Document) (entries : Fields) :
    d.entries? = some entries ↔ d = .object entries := by
  cases d <;> simp [Document.entries?]

theorem text?_eq_some_iff (d : Document) (s : String) : d.text? = some s ↔ d = .text s := by
  cases d <;> simp [Document.text?]

theorem mapM_text?_eq_some_iff (items : List Document) (keys : List String) :
    items.mapM Document.text? = some keys ↔ items = keys.map .text := by
  induction items generalizing keys with
  | nil => simp [eq_comm]
  | cons item rest ih =>
    simp only [List.mapM_cons, Option.bind_eq_bind, Option.bind_eq_some_iff, Option.pure_def,
      Option.some.injEq, text?_eq_some_iff, ih]
    constructor
    · rintro ⟨s, rfl, others, rfl, rfl⟩
      rfl
    · intro h
      cases keys with
      | nil => cases h
      | cons s others =>
        obtain ⟨rfl, rfl⟩ := List.cons.inj h
        exact ⟨s, rfl, others, rfl, rfl⟩

theorem texts?_eq_some_iff (d : Document) (keys : List String) :
    d.texts? = some keys ↔ d = .list (keys.map .text) := by
  cases d with
  | list items => simp [Document.texts?, mapM_text?_eq_some_iff]
  | _ => simp [Document.texts?]

/-! ## Collecting one field -/

section
variable {schema : Document} {entries rest : Fields} {keys : List String}

theorem placeless_iff (schema : Document) : Placeless schema ↔ declaredPlace? schema = none := by
  simp only [declaredPlace?, Option.bind_eq_none_iff, entries?_eq_some_iff, Placeless]

theorem Placeless.wellFormed (h : Placeless schema) : WellFormedField schema := by
  intro entries place hentries hplace
  rw [h entries hentries] at hplace
  cases hplace

theorem wellFormedField_of_texts (h : entries.get? pathKey = some (.list (keys.map .text))) :
    WellFormedField (.object entries) := by
  rintro _ place ⟨⟩ hplace
  exact ⟨keys, Option.some.inj (hplace.symm.trans h)⟩

/-- A field has no place, a list of texts for one, or something else. -/
theorem placeless_or_texts (schema : Document) :
    Placeless schema ∨
      (∃ (entries : Fields) (keys : List String), schema = .object entries ∧
        entries.get? pathKey = some (.list (keys.map .text))) ∨
      ¬ WellFormedField schema := by
  by_cases hwell : WellFormedField schema
  · by_cases hnone : Placeless schema
    · exact .inl hnone
    · simp only [Placeless, Classical.not_forall] at hnone
      obtain ⟨entries, rfl, hplace⟩ := hnone
      obtain ⟨place, hplace⟩ := Option.ne_none_iff_exists'.mp hplace
      obtain ⟨keys, rfl⟩ := hwell entries place rfl hplace
      exact .inr (.inl ⟨entries, keys, rfl, hplace⟩)
  · exact .inr (.inr hwell)

theorem collect_of_placeless (h : Placeless schema) (field : String) (rest : Fields) :
    collect ((field, schema) :: rest) = collect rest := by
  rw [collect, (placeless_iff schema).mp h]

theorem collect_of_texts (h : entries.get? pathKey = some (.list (keys.map .text)))
    (field : String) (rest : Fields) :
    collect ((field, .object entries) :: rest) = (collect rest).map ((field, keys) :: ·) := by
  have hplace : declaredPlace? (.object entries) = some (.list (keys.map .text)) := h
  have hkeys : (Document.list (keys.map .text)).texts? = some keys :=
    (texts?_eq_some_iff _ keys).mpr rfl
  rw [collect, hplace]
  simp only [hkeys]

theorem collect_of_not_wellFormed (h : ¬ WellFormedField schema) (field : String) (rest : Fields) :
    collect ((field, schema) :: rest) = .error (.pathNotTexts field) := by
  simp only [WellFormedField, Classical.not_forall] at h
  obtain ⟨entries, place, rfl, hplace, htexts⟩ := h
  have hdeclared : declaredPlace? (.object entries) = some place := hplace
  have hnone : place.texts? = none := by
    refine Option.eq_none_iff_forall_ne_some.mpr fun keys hkeys => ?_
    exact htexts ⟨keys, (texts?_eq_some_iff place keys).mp hkeys⟩
  rw [collect, hdeclared]
  simp only [hnone]

end

/-! ## Collecting all fields -/

/-- The keys that a field's schema declares, when it declares a list of texts. -/
def declaredKeys? (schema : Document) : Option (List String) :=
  (declaredPlace? schema).bind Document.texts?

theorem declaredKeys?_eq_some_iff (schema : Document) (keys : List String) :
    declaredKeys? schema = some keys ↔
      ∃ entries : Fields, schema = .object entries ∧
        entries.get? pathKey = some (.list (keys.map .text)) := by
  simp only [declaredKeys?, declaredPlace?, Option.bind_eq_some_iff, texts?_eq_some_iff,
    entries?_eq_some_iff]
  constructor
  · rintro ⟨_, ⟨entries, hentries, hplace⟩, rfl⟩
    exact ⟨entries, hentries, hplace⟩
  · rintro ⟨entries, hentries, hplace⟩
    exact ⟨_, ⟨entries, hentries, hplace⟩, rfl⟩

/-- Well formed fields are all collected, those that declare nothing left out. -/
theorem collect_of_wellFormed {properties : Fields}
    (h : ∀ entry ∈ properties, WellFormedField entry.2) :
    collect properties =
      .ok (properties.filterMap fun entry => (declaredKeys? entry.2).map (entry.1, ·)) := by
  induction properties with
  | nil => rfl
  | cons entry rest ih =>
    obtain ⟨field, schema⟩ := entry
    obtain ⟨hfield, hrest⟩ := List.forall_mem_cons.mp h
    have ih := ih hrest
    rcases placeless_or_texts schema with hnone | ⟨entries, keys, rfl, htexts⟩ | hodd
    · have hdeclared : declaredKeys? schema = none := by
        rw [declaredKeys?, (placeless_iff schema).mp hnone]
        rfl
      rw [collect_of_placeless hnone, ih, List.filterMap_cons_none (by rw [hdeclared]; rfl)]
    · have hdeclared := (declaredKeys?_eq_some_iff (.object entries) keys).mpr ⟨entries, rfl, htexts⟩
      rw [collect_of_texts htexts, ih, List.filterMap_cons_some (by rw [hdeclared]; rfl)]
      rfl
    · exact absurd hfield hodd

/-- The fields that a schema lists, with their own schemas. -/
def properties (userInput : Option Fields) : Fields :=
  ((userInput.bind (·.get? propertiesKey)).bind Document.entries?).getD []

theorem get?_properties (userInput : Option Fields) (field : String) :
    (properties userInput).get? field =
      ((userInput.bind (·.get? propertiesKey)).bind Document.entries?).bind (·.get? field) := by
  unfold properties
  cases (userInput.bind (·.get? propertiesKey)).bind Document.entries? <;> rfl

/-- A well formed schema is accepted with what its fields declare, in their order. -/
theorem declared_of_wellFormed {userInput : Option Fields} (h : WellFormed userInput) :
    declared (.ofFields? userInput) =
      .ok ((properties userInput).filterMap fun entry =>
        (declaredKeys? entry.2).map (entry.1, ·)) := by
  cases userInput with
  | none => rfl
  | some schema =>
    rw [properties, Option.bind_some]
    change declared (.object schema) = _
    rw [declared]
    cases hget : Table.get? schema propertiesKey with
    | none => rfl
    | some value =>
      rcases h schema value rfl hget with rfl | ⟨fields, rfl, hfields⟩
      · rfl
      · exact collect_of_wellFormed hfields

/-- Where collecting succeeds, every field is well formed. -/
theorem wellFormedField_of_collect {properties : Fields} {declarations : Declarations}
    (h : collect properties = .ok declarations) :
    ∀ entry ∈ properties, WellFormedField entry.2 := by
  induction properties generalizing declarations with
  | nil => simp
  | cons entry rest ih =>
    obtain ⟨field, schema⟩ := entry
    rw [List.forall_mem_cons]
    rcases placeless_or_texts schema with hnone | ⟨entries, keys, rfl, htexts⟩ | hodd
    · rw [collect_of_placeless hnone] at h
      exact ⟨hnone.wellFormed, ih h⟩
    · rw [collect_of_texts htexts] at h
      obtain ⟨others, hothers, -⟩ := exists_of_map_eq_ok h
      exact ⟨wellFormedField_of_texts htexts, ih hothers⟩
    · rw [collect_of_not_wellFormed hodd] at h
      cases h

/-- Only well formed schemas are accepted. -/
theorem wellFormed_of_declared {userInput : Option Fields} {declarations : Declarations}
    (h : declared (.ofFields? userInput) = .ok declarations) : WellFormed userInput := by
  rintro schema value rfl hvalue
  change declared (.object schema) = _ at h
  rw [declared, hvalue] at h
  split at h
  · rename_i heq
    cases heq
  · rename_i heq
    exact .inl (Option.some.inj heq)
  · rename_i fields heq
    exact .inr ⟨fields, Option.some.inj heq, wellFormedField_of_collect h⟩
  · cases h

theorem declares_iff (userInput : Option Fields) (field : String) (keys : List String) :
    Declares userInput field keys ↔
      ((properties userInput).get? field).bind declaredKeys? = some keys := by
  simp only [get?_properties, Option.bind_eq_some_iff, declaredKeys?_eq_some_iff,
    entries?_eq_some_iff]
  constructor
  · rintro ⟨schema, fields, entries, hschema, hproperties, hfield, hplace⟩
    exact ⟨_, ⟨fields, ⟨_, ⟨schema, hschema, hproperties⟩, rfl⟩, hfield⟩, entries, rfl, hplace⟩
  · rintro ⟨_, ⟨fields, ⟨_, ⟨schema, hschema, hproperties⟩, rfl⟩, hfield⟩, entries, rfl, hplace⟩
    exact ⟨schema, fields, entries, hschema, hproperties, hfield, hplace⟩

/-- The fields that a proper schema lists are distinct. -/
theorem nodup_properties {userInput : Option Fields}
    (h : (Document.ofFields? userInput).Proper) : (properties userInput).keys.Nodup := by
  unfold properties
  cases hentries : (userInput.bind (·.get? propertiesKey)).bind Document.entries? with
  | none => exact List.nodup_nil
  | some fields =>
    obtain ⟨value, hvalue, hfields⟩ := Option.bind_eq_some_iff.mp hentries
    obtain ⟨schema, rfl, hget⟩ := Option.bind_eq_some_iff.mp hvalue
    rw [(entries?_eq_some_iff value fields).mp hfields] at hget
    exact (h.of_get? hget).nodup_keys

end AuthBroker.Input
