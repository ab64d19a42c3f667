import AuthBroker.Input.Reconcile
import AuthBroker.Proofs.Input.Schema

/-! # Which value a field of the input gets

A field keeps its own value unless that is the mask. A masked field gets the one value of the stored
configuration that its declared place leads to, if that is not the mask itself. `Fills` says this of
one field and `Filled` of an input; what is sent to a provider is the filled input
(`reconcile_filled`). -/

namespace AuthBroker.Input

/-! ## Specification -/

/-- The value that a field of the input gets in place of the given one. -/
inductive Fills (spec : Connector.OAuthSpecification) (stored : Option Fields) (field : String) :
    Document → Document → Prop
  | own {value : Document} : value ≠ .text mask → Fills spec stored field value value
  | stored {configuration : Fields} {keys : List String} {path : Path} {found : Document} :
      Declares spec.userInput field keys → stored = some configuration →
      Path.parse (expression keys) = .ok path → path.query (.object configuration) = [found] →
      found ≠ .text mask → Fills spec stored field (.text mask) found

/-- An input and what is made of it: every field with the value it gets, in order, and without the
fields that get none. -/
inductive Filled (spec : Connector.OAuthSpecification) (stored : Option Fields) :
    Fields → Fields → Prop
  | nil : Filled spec stored [] []
  | kept {field : String} {value found : Document} {rest result : Fields} :
      Fills spec stored field value found → Filled spec stored rest result →
      Filled spec stored ((field, value) :: rest) ((field, found) :: result)
  | dropped {field : String} {value : Document} {rest result : Fields} :
      (∀ found, ¬ Fills spec stored field value found) → Filled spec stored rest result →
      Filled spec stored ((field, value) :: rest) result

section
variable {spec : Connector.OAuthSpecification} {stored : Option Fields}

/-! ## What follows from being filled -/

theorem Fills.ne_mask {field : String} {value found : Document}
    (h : Fills spec stored field value found) : found ≠ .text mask := by
  cases h with
  | own hvalue => exact hvalue
  | stored _ _ _ _ hfound => exact hfound

theorem Filled.ne_mask {input result : Fields} (h : Filled spec stored input result) :
    ∀ entry ∈ result, entry.2 ≠ .text mask := by
  induction h with
  | nil => simp
  | kept hfills _ ih =>
    intro entry hentry
    rcases List.mem_cons.mp hentry with rfl | hrest
    · exact hfills.ne_mask
    · exact ih entry hrest
  | dropped _ _ ih => exact ih

theorem Filled.keys_sublist {input result : Fields} (h : Filled spec stored input result) :
    result.keys.Sublist input.keys := by
  induction h with
  | nil => exact List.Sublist.slnil
  | kept _ _ ih => exact ih.cons_cons _
  | dropped _ _ ih => exact ih.cons _

theorem Filled.mem_of_ne_mask {input result : Fields} (h : Filled spec stored input result)
    {field : String} {value : Document} (hmem : (field, value) ∈ input)
    (hvalue : value ≠ .text mask) : (field, value) ∈ result := by
  induction h with
  | nil => cases hmem
  | kept hfills _ ih =>
    rcases List.mem_cons.mp hmem with heq | hrest
    · cases heq
      cases hfills with
      | own => exact List.mem_cons_self
      | stored => exact absurd rfl hvalue
    · exact List.mem_cons_of_mem _ (ih hrest)
  | dropped hnone _ ih =>
    rcases List.mem_cons.mp hmem with heq | hrest
    · cases heq
      exact absurd (.own hvalue) (hnone value)
    · exact ih hrest

/-! ## The stored values -/

theorem isMask_iff (d : Document) : isMask d = true ↔ d = .text mask := by
  cases d <;> simp [isMask]

theorem found_cons_ok (field : String) (value : Document) (findings : Table String Finding) :
    found ((field, .ok value) :: findings) = (field, value) :: found findings := rfl

theorem found_cons_error (field : String) (warning : Warning) (findings : Table String Finding) :
    found ((field, .error warning) :: findings) = found findings := rfl

theorem toOption_eq_some_iff (finding : Finding) (value : Document) :
    finding.toOption = some value ↔ finding = .ok value := by
  cases finding <;> simp [Except.toOption]

/-- A field is resolved in what is stored by a path that leads to one value there. -/
theorem resolveField_eq_ok_iff (configuration : Document) (field expression : String)
    (found : Document) :
    resolveField configuration field expression = .ok found ↔
      configuration.isNull = false ∧
        ∃ path, Path.parse expression = .ok path ∧ path.query configuration = [found] := by
  unfold resolveField Document.lookup
  cases configuration.isNull with
  | true => simp
  | false =>
    cases hparse : Path.parse expression with
    | error refusal => simp [Except.map]
    | ok path =>
      have hsingle := Path.single?_eq_some_iff path configuration found
      cases hfound : path.single? configuration with
      | none => simp [Except.map, hfound, ← hsingle]
      | some value => simp [Except.map, hfound, ← hsingle]

theorem resolveField_ofFields?_eq_ok_iff (field expression : String) (found : Document) :
    resolveField (.ofFields? stored) field expression = .ok found ↔
      ∃ configuration path, stored = some configuration ∧ Path.parse expression = .ok path ∧
        path.query (.object configuration) = [found] := by
  rw [resolveField_eq_ok_iff]
  cases stored with
  | none => simp [Document.ofFields?, Document.ofOption, Document.isNull]
  | some configuration => simp [Document.ofFields?, Document.ofOption, Document.isNull]

/-- The entry that is kept for a field whose schema is at hand, if any is found for it. -/
def keptField? (configuration : Document) (entry : String × Document) :
    Option (String × Document) :=
  ((declaredKeys? entry.2).bind fun keys =>
    (resolveField configuration entry.1 (expression keys)).toOption).map (entry.1, ·)

/-- What is found for declared fields, each by the expression of its keys. -/
theorem resolve_expressions (configuration : Document) (declarations : Declarations) :
    (resolve configuration (expressions declarations)).1 =
      declarations.filterMap fun entry =>
        (resolveField configuration entry.1 (expression entry.2)).toOption.map (entry.1, ·) := by
  simp only [resolve, expressions]
  induction declarations with
  | nil => rfl
  | cons entry rest ih =>
    obtain ⟨field, keys⟩ := entry
    rw [List.map_cons, List.map_cons]
    cases hfinding : resolveField configuration field (expression keys) with
    | error warning =>
      rw [found_cons_error, ih, List.filterMap_cons_none (by rw [hfinding]; rfl)]
    | ok value => rw [found_cons_ok, ih, List.filterMap_cons_some (by rw [hfinding]; rfl)]

theorem resolve_declared (configuration : Document) (fields : Fields) :
    (resolve configuration (expressions (fields.filterMap fun entry =>
      (declaredKeys? entry.2).map (entry.1, ·)))).1 =
      fields.filterMap (keptField? configuration) := by
  rw [resolve_expressions, List.filterMap_filterMap]
  refine congrArg (List.filterMap · fields) (funext fun entry => ?_)
  rw [keptField?]
  cases declaredKeys? entry.2 <;> rfl

theorem get?_stored_eq_some_iff (stored : Option Fields)
    (hproper : (Document.ofFields? spec.userInput).Proper)
    (field : String) (value : Document) :
    Table.get? ((properties spec.userInput).filterMap (keptField? (.ofFields? stored))) field =
        some value ↔
      ∃ keys configuration path, Declares spec.userInput field keys ∧
        stored = some configuration ∧ Path.parse (expression keys) = .ok path ∧
        path.query (.object configuration) = [value] := by
  unfold keptField?
  rw [Table.get?_filterMap (fun field schema => (declaredKeys? schema).bind fun keys =>
    (resolveField (.ofFields? stored) field (expression keys)).toOption) _
    (nodup_properties hproper), ← Option.bind_assoc]
  rw [Option.bind_eq_some_iff]
  simp only [← declares_iff, toOption_eq_some_iff, resolveField_ofFields?_eq_ok_iff]
  constructor
  · rintro ⟨keys, hdeclares, configuration, path, hstored, hparse, hquery⟩
    exact ⟨keys, configuration, path, hdeclares, hstored, hparse, hquery⟩
  · rintro ⟨keys, configuration, path, hdeclares, hstored, hparse, hquery⟩
    exact ⟨keys, hdeclares, configuration, path, hstored, hparse, hquery⟩

/-! ## Merging -/

theorem mergeField_eq_ok_iff (stored : Option Fields)
    (hproper : (Document.ofFields? spec.userInput).Proper)
    (field : String) (value found : Document) :
    mergeField ((properties spec.userInput).filterMap (keptField? (.ofFields? stored))) field
        value = .ok found ↔ Fills spec stored field value found := by
  have hget := get?_stored_eq_some_iff stored hproper field
  unfold mergeField
  constructor
  · intro h
    split at h
    · rename_i hmask
      rw [(isMask_iff value).mp hmask]
      split at h
      · cases h
      · rename_i d hd
        split at h
        · cases h
        · rename_i hfound
          cases h
          obtain ⟨keys, configuration, path, hdeclares, hstored, hparse, hquery⟩ := (hget _).mp hd
          exact .stored hdeclares hstored hparse hquery
            fun heq => hfound ((isMask_iff _).mpr heq)
    · rename_i hmask
      cases h
      exact .own fun heq => hmask ((isMask_iff value).mpr heq)
  · intro h
    cases h with
    | own hvalue => rw [if_neg fun hmask => hvalue ((isMask_iff value).mp hmask)]
    | stored hdeclares hstored hparse hquery hfound =>
      rw [if_pos ((isMask_iff _).mpr rfl),
        (hget found).mpr ⟨_, _, _, hdeclares, hstored, hparse, hquery⟩]
      dsimp only
      rw [if_neg fun hmask => hfound ((isMask_iff found).mp hmask)]

theorem filled_of_findings {f : String → Document → Finding}
    (hf : ∀ field value found, f field value = .ok found ↔ Fills spec stored field value found)
    (input : Fields) :
    Filled spec stored input (found (input.map fun (field, value) => (field, f field value))) := by
  induction input with
  | nil => exact .nil
  | cons entry rest ih =>
    obtain ⟨field, value⟩ := entry
    rw [List.map_cons]
    change Filled spec stored _ (found ((field, f field value) :: _))
    cases hfinding : f field value with
    | error warning =>
      rw [found_cons_error]
      refine .dropped (fun found hfills => ?_) ih
      rw [(hf field value found).mpr hfills] at hfinding
      cases hfinding
    | ok found =>
      rw [found_cons_ok]
      exact .kept ((hf field value found).mp hfinding) ih

theorem reconcile_of_declared {declarations : Declarations} (configuration : Document)
    (input : Option Fields) (h : declared (.ofFields? spec.userInput) = .ok declarations) :
    reconcile spec configuration input =
      .ok ((merge (resolve configuration (expressions declarations)).1 input).1,
        (resolve configuration (expressions declarations)).2 ++
          (merge (resolve configuration (expressions declarations)).1 input).2) := by
  rw [reconcile, h]
  rfl

end

/-- For a well formed schema the input is accepted, and what is sent is the input filled from the
stored configuration: every field has the value it gets, in the order of the input. So no field
shows the mask, no field is new, and no value of the caller's own is replaced. -/
theorem reconcile_filled (spec : Connector.OAuthSpecification) (stored input : Option Fields)
    (hproper : (Document.ofFields? spec.userInput).Proper) (hschema : WellFormed spec.userInput) :
    ∃ result warnings,
      reconcile spec (.ofFields? stored) input = .ok (result, warnings) ∧
      Filled spec stored (input.getD []) result ∧
      (∀ entry ∈ result, entry.2 ≠ .text mask) ∧
      result.keys.Sublist (Table.keys (input.getD [])) ∧
      (∀ field value, (field, value) ∈ input.getD [] → value ≠ .text mask →
        (field, value) ∈ result) := by
  have hresult := reconcile_of_declared (.ofFields? stored) input (declared_of_wellFormed hschema)
  have hfilled := filled_of_findings (mergeField_eq_ok_iff stored hproper)
    (input.getD [])
  rw [← resolve_declared] at hfilled
  exact ⟨_, _, hresult, hfilled, hfilled.ne_mask, hfilled.keys_sublist,
    fun _ _ => hfilled.mem_of_ne_mask⟩

/-- A schema with a field that lies under two keys of the configuration and one that lies under
many. -/
def sampleSpecification : Connector.OAuthSpecification where
  userInput := some [(propertiesKey, .object [
    ("client_id", .object [(pathKey, .list [.text "credentials", .text "id"])]),
    ("tokens", .object [(pathKey, .list [.text "accounts", .text "*"])]),
    ("scope", .object [])])]
  output := none
  serverInput := none
  serverOutput := none

/-- A configuration that holds a masked secret and two tokens. -/
def sampleConfiguration : Fields := [
  ("credentials", .object [("id", .text "id-1"), ("secret", .text mask)]),
  ("accounts", .list [.text "token-1", .null])]

/-- An input in which two fields are masked. -/
def sampleInput : Fields :=
  [("client_id", .text mask), ("tokens", .text mask), ("scope", .text "mail")]

theorem sampleSpecification_proper : (Document.ofFields? sampleSpecification.userInput).Proper := by
  refine .object (by decide) fun entry hentry => ?_
  obtain rfl := List.mem_singleton.mp hentry
  refine .object (by decide) fun field hfield => ?_
  simp only [List.mem_cons, List.not_mem_nil, or_false] at hfield
  rcases hfield with rfl | rfl | rfl
  · refine .object (by decide) fun place hplace => ?_
    obtain rfl := List.mem_singleton.mp hplace
    exact .list (by simp [Document.Proper.text])
  · refine .object (by decide) fun place hplace => ?_
    obtain rfl := List.mem_singleton.mp hplace
    exact .list (by simp [Document.Proper.text])
  · exact .object (by decide) (by simp)

theorem sampleSpecification_wellFormed : WellFormed sampleSpecification.userInput := by
  intro schema value hschema hvalue
  cases hschema
  cases hvalue
  refine .inr ⟨_, rfl, fun field hfield => ?_⟩
  simp only [List.mem_cons, List.not_mem_nil, or_false] at hfield
  rcases hfield with rfl | rfl | rfl <;> intro entries place hentries hplace <;> cases hentries
  · cases hplace
    exact ⟨["credentials", "id"], rfl⟩
  · cases hplace
    exact ⟨["accounts", "*"], rfl⟩
  · cases hplace

theorem reconcile_filled_sample :
    (Document.ofFields? sampleSpecification.userInput).Proper ∧
    WellFormed sampleSpecification.userInput ∧
    ∃ result warnings,
      reconcile sampleSpecification (.ofFields? (some sampleConfiguration)) (some sampleInput) =
        .ok (result, warnings) ∧
      Filled sampleSpecification (some sampleConfiguration) sampleInput result ∧
      (∀ entry ∈ result, entry.2 ≠ .text mask) ∧
      result.keys.Sublist sampleInput.keys ∧
      (∀ field value, (field, value) ∈ sampleInput → value ≠ .text mask →
        (field, value) ∈ result) :=
  ⟨sampleSpecification_proper, sampleSpecification_wellFormed,
    reconcile_filled sampleSpecification (some sampleConfiguration) (some sampleInput)
      sampleSpecification_proper sampleSpecification_wellFormed⟩

end AuthBroker.Input
