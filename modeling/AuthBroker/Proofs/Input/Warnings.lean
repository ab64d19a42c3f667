import AuthBroker.Proofs.Input.Filling
import Mathlib.Data.List.Forall2
import Mathlib.Data.List.Nodup

/-! # Which fields are warned of

A declared field is warned of when its place leads to no value, or to more than one (`Unresolved`),
and a masked field of the input when nothing usable is stored for it (`Unfilled`). Filling an input
fails for a malformed schema only. Otherwise there is one warning for each of these fields, first
those of the schema and then those of the input, each in order, and no other (`reconcile_warned`). -/

namespace AuthBroker.Input

/-! ## Specification -/

/-- Warnings about entries, in the order of the entries: one for each entry that calls for a warning
and none for the others. -/
inductive Warned {α : Type} (Calls : α → Warning → Prop) : List α → List Warning → Prop
  | nil : Warned Calls [] []
  | warned {entry : α} {warning : Warning} {rest : List α} {warnings : List Warning} :
      Calls entry warning → Warned Calls rest warnings →
      Warned Calls (entry :: rest) (warning :: warnings)
  | silent {entry : α} {rest : List α} {warnings : List Warning} :
      (∀ warning, ¬ Calls entry warning) → Warned Calls rest warnings →
      Warned Calls (entry :: rest) warnings

/-- Why a field's expression does not lead to one stored value. -/
inductive Misses (stored : Option Fields) (field expression : String) : Warning → Prop
  | unstored : stored = none → Misses stored field expression (.noConfiguration field)
  | invalid {configuration : Fields} {refusal : Path.Invalid} : stored = some configuration →
      Path.parse expression = .error refusal →
      Misses stored field expression (.invalidPath field refusal)
  | unmatched {configuration : Fields} {path : Path} : stored = some configuration →
      Path.parse expression = .ok path → path.query (.object configuration) = [] →
      Misses stored field expression (.notSingle field)
  | ambiguous {configuration : Fields} {path : Path} {one other : Document}
      {others : List Document} : stored = some configuration →
      Path.parse expression = .ok path →
      path.query (.object configuration) = one :: other :: others →
      Misses stored field expression (.notSingle field)

/-- A declared field whose place does not lead to one stored value. -/
def Unresolved (spec : Connector.OAuthSpecification) (stored : Option Fields) (field : String)
    (warning : Warning) : Prop :=
  ∃ keys, Declares spec.userInput field keys ∧ Misses stored field (expression keys) warning

/-- A value is stored for a declared field, masked or not. -/
def HasStored (spec : Connector.OAuthSpecification) (stored : Option Fields) (field : String)
    (found : Document) : Prop :=
  ∃ keys configuration path, Declares spec.userInput field keys ∧ stored = some configuration ∧
    Path.parse (expression keys) = .ok path ∧ path.query (.object configuration) = [found]

/-- A masked field of the input for which no value is stored, or only the mask. -/
inductive Unfilled (spec : Connector.OAuthSpecification) (stored : Option Fields) :
    String × Document → Warning → Prop
  | unstored {field : String} : (∀ found, ¬ HasStored spec stored field found) →
      Unfilled spec stored (field, .text mask) (.notStored field)
  | storedMask {field : String} : HasStored spec stored field (.text mask) →
      Unfilled spec stored (field, .text mask) (.storedMask field)

/-- The field that a warning is about. -/
def Warning.field : Warning → String
  | .noConfiguration field | .invalidPath field _ | .notSingle field | .notStored field
  | .storedMask field => field

theorem Warning.exists_message_eq (warning : Warning) :
    ∃ before after, warning.message = before ++ warning.field ++ after := by
  cases warning with
  | noConfiguration field => exact ⟨"Missing the key ", ": no stored configuration", rfl⟩
  | invalidPath field refusal =>
    refine ⟨"Missing the key ", " from the stored configuration: " ++ refusal.message, ?_⟩
    rw [← String.append_assoc]
    rfl
  | notSingle field => exact ⟨"Missing the key ", " from the stored configuration", rfl⟩
  | notStored field => exact ⟨"Missing the key ", " in the stored configuration", rfl⟩
  | storedMask field => exact ⟨"Stored value of the key ", " is masked", rfl⟩

/-- A missing stored value is told from a masked one. -/
theorem Warning.message_notStored_ne (field other : String) :
    (Warning.notStored field).message ≠ (Warning.storedMask other).message := by
  intro h
  change "Missing the key " ++ field ++ " in the stored configuration" =
    "Stored value of the key " ++ other ++ " is masked" at h
  have hfront := congrArg (fun message : String => message.toList.head?) h
  simp at hfront

section
variable {spec : Connector.OAuthSpecification} {stored : Option Fields}

/-! ## One warning for each entry that calls for one -/

section
variable {α β : Type} {Calls : β → Warning → Prop}

theorem warned_filterMap {Calls : α → Warning → Prop} {warning? : α → Option Warning}
    {entries : List α}
    (h : ∀ entry ∈ entries, ∀ warning, warning? entry = some warning ↔ Calls entry warning) :
    Warned Calls entries (entries.filterMap warning?) := by
  induction entries with
  | nil => exact .nil
  | cons entry rest ih =>
    have ih := ih fun other hother => h other (List.mem_cons_of_mem _ hother)
    have hentry := h entry List.mem_cons_self
    cases hwarning : warning? entry with
    | some warning =>
      rw [List.filterMap_cons_some hwarning]
      exact .warned ((hentry warning).mp hwarning) ih
    | none =>
      rw [List.filterMap_cons_none hwarning]
      refine .silent (fun warning hcalls => ?_) ih
      rw [(hentry warning).mpr hcalls] at hwarning
      cases hwarning

theorem Warned.map {f : α → β} {entries : List α} {warnings : List Warning}
    (h : Warned (fun entry => Calls (f entry)) entries warnings) :
    Warned Calls (entries.map f) warnings := by
  induction h with
  | nil => exact .nil
  | warned hcalls _ ih => exact .warned hcalls ih
  | silent hnone _ ih => exact .silent hnone ih

end

/-! ## Declared fields -/

def Finding.warning? : Finding → Option Warning
  | .ok _ => none
  | .error warning => some warning

theorem Finding.warning?_eq_some_iff (finding : Finding) (warning : Warning) :
    finding.warning? = some warning ↔ finding = .error warning := by
  cases finding <;> simp [Finding.warning?]

theorem warnings_eq (findings : Table String Finding) :
    warnings findings = findings.filterMap fun entry => entry.2.warning? := by
  refine congrArg (List.filterMap · findings) (funext fun entry => ?_)
  obtain ⟨field, finding⟩ := entry
  cases finding <;> rfl

theorem lookup_eq_error_iff (d : Document) (expression : String) (refusal : Path.Invalid) :
    d.lookup expression = .error refusal ↔ Path.parse expression = .error refusal := by
  unfold Document.lookup
  cases Path.parse expression <;> simp [Except.map]

theorem lookup_eq_none_iff (d : Document) (expression : String) :
    d.lookup expression = .ok none ↔
      ∃ path, Path.parse expression = .ok path ∧
        (path.query d = [] ∨ ∃ one other others, path.query d = one :: other :: others) := by
  unfold Document.lookup Path.single?
  cases Path.parse expression with
  | error refusal => simp [Except.map]
  | ok path =>
    cases hquery : path.query d with
    | nil => simp [Except.map, hquery]
    | cons one rest => cases rest <;> simp [Except.map, hquery]

/-- A field is warned of for the reason that keeps it from being resolved in what is stored. -/
theorem resolveField_eq_error_iff (field expression : String) (warning : Warning) :
    resolveField (.ofFields? stored) field expression = .error warning ↔
      Misses stored field expression warning := by
  cases stored with
  | none =>
    constructor
    · intro h
      cases h
      exact .unstored rfl
    · intro h
      cases h with
      | unstored _ => rfl
      | _ => contradiction
  | some configuration =>
    have hstored : Document.ofFields? (some configuration) = .object configuration := rfl
    have hthere : ¬ (Document.object configuration).isNull = true := Bool.false_ne_true
    rw [hstored, resolveField, if_neg hthere]
    constructor
    · intro h
      split at h
      · rename_i refusal hlookup
        cases h
        exact .invalid rfl ((lookup_eq_error_iff _ _ _).mp hlookup)
      · rename_i hlookup
        cases h
        obtain ⟨path, hparse, hquery | ⟨one, other, others, hquery⟩⟩ :=
          (lookup_eq_none_iff _ _).mp hlookup
        · exact .unmatched rfl hparse hquery
        · exact .ambiguous rfl hparse hquery
      · cases h
    · intro h
      cases h with
      | unstored hstored => cases hstored
      | invalid hstored hparse =>
        cases hstored
        rw [(lookup_eq_error_iff _ _ _).mpr hparse]
      | unmatched hstored hparse hquery =>
        cases hstored
        rw [(lookup_eq_none_iff _ _).mpr ⟨_, hparse, .inl hquery⟩]
      | ambiguous hstored hparse hquery =>
        cases hstored
        rw [(lookup_eq_none_iff _ _).mpr ⟨_, hparse, .inr ⟨_, _, _, hquery⟩⟩]

/-- What a field of a proper schema declares can be read off its own entry. -/
theorem declares_iff_of_mem {userInput : Option Fields} (h : (Document.ofFields? userInput).Proper)
    {entry : String × Document} (hentry : entry ∈ properties userInput) (keys : List String) :
    Declares userInput entry.1 keys ↔ declaredKeys? entry.2 = some keys := by
  rw [declares_iff, Table.get?_of_mem (nodup_properties h) hentry, Option.bind_some]

theorem warned_resolve (stored : Option Fields)
    (hproper : (Document.ofFields? spec.userInput).Proper) :
    Warned (Unresolved spec stored) (properties spec.userInput).keys
      (resolve (.ofFields? stored) (expressions ((properties spec.userInput).filterMap fun entry =>
        (declaredKeys? entry.2).map (entry.1, ·)))).2 := by
  simp only [resolve, expressions, warnings_eq, List.filterMap_map, List.filterMap_filterMap]
  refine Warned.map (f := Prod.fst) (warned_filterMap fun entry hentry warning => ?_)
  simp only [Unresolved, declares_iff_of_mem hproper hentry, ← resolveField_eq_error_iff,
    ← Finding.warning?_eq_some_iff, Option.bind_map, Option.bind_eq_some_iff, Function.comp_apply]

/-! ## Masked fields -/

theorem mergeField_eq_error_iff {kept : Fields}
    (hkept : ∀ field found, kept.get? field = some found ↔ HasStored spec stored field found)
    (field : String) (value : Document) (warning : Warning) :
    mergeField kept field value = .error warning ↔
      Unfilled spec stored (field, value) warning := by
  unfold mergeField
  constructor
  · intro h
    split at h
    · rename_i hmask
      rw [(isMask_iff value).mp hmask]
      split at h
      · rename_i hnone
        cases h
        refine .unstored fun found hfound => ?_
        rw [(hkept field found).mpr hfound] at hnone
        cases hnone
      · rename_i found hfound
        split at h
        · rename_i hmasked
          cases h
          rw [(isMask_iff found).mp hmasked] at hfound
          exact .storedMask ((hkept field _).mp hfound)
        · cases h
    · cases h
  · intro h
    cases h with
    | unstored hnone =>
      have hget : kept.get? field = none := by
        refine Option.eq_none_iff_forall_ne_some.mpr fun found hfound => ?_
        exact hnone found ((hkept field found).mp hfound)
      rw [hget, if_pos ((isMask_iff _).mpr rfl)]
    | storedMask hmask =>
      rw [(hkept field _).mpr hmask, if_pos ((isMask_iff _).mpr rfl)]
      exact if_pos ((isMask_iff _).mpr rfl)

theorem warned_merge {kept : Fields}
    (hkept : ∀ field found, kept.get? field = some found ↔ HasStored spec stored field found)
    (input : Option Fields) :
    Warned (Unfilled spec stored) (input.getD []) (merge kept input).2 := by
  simp only [merge, warnings_eq, List.filterMap_map]
  refine warned_filterMap fun entry _ warning => ?_
  simp only [Function.comp_apply, Finding.warning?_eq_some_iff, mergeField_eq_error_iff hkept]

/-! ## Fields that the result lacks -/

/-- A field of the input is warned of exactly when it gets no value. -/
theorem exists_unfilled_iff (stored : Option Fields)
    (hproper : (Document.ofFields? spec.userInput).Proper) (field : String) (value : Document) :
    (∃ warning, Unfilled spec stored (field, value) warning) ↔
      ∀ found, ¬ Fills spec stored field value found := by
  simp only [← mergeField_eq_ok_iff stored hproper,
    ← mergeField_eq_error_iff (get?_stored_eq_some_iff stored hproper)]
  cases mergeField _ field value <;> simp

theorem Unfilled.field_eq {entry : String × Document} {warning : Warning}
    (h : Unfilled spec stored entry warning) : warning.field = entry.1 := by
  cases h <;> rfl

/-- The warnings about an input name the fields that are missing from the filled input, in order. -/
theorem Warned.fields_eq {input result : Fields} {warnings : List Warning}
    (hproper : (Document.ofFields? spec.userInput).Proper)
    (hfilled : Filled spec stored input result)
    (hwarned : Warned (Unfilled spec stored) input warnings) (hkeys : input.keys.Nodup) :
    warnings.map Warning.field = input.keys.filter (· ∉ result.keys) := by
  induction hfilled generalizing warnings with
  | nil =>
    cases hwarned
    rfl
  | @kept field value found rest result hfills hrest ih =>
    rw [Table.keys_cons, List.nodup_cons] at hkeys
    cases hwarned with
    | warned hunfilled _ =>
      -- a field that gets a value is not warned of
      exact absurd hfills ((exists_unfilled_iff stored hproper field value).mp ⟨_, hunfilled⟩ found)
    | silent _ hwarned =>
      rw [ih hwarned hkeys.2, Table.keys_cons, Table.keys_cons, List.filter_cons_of_neg (by simp)]
      refine List.filter_congr fun key hkey => ?_
      have hne : key ≠ field := fun heq => hkeys.1 (heq ▸ hkey)
      simp [hne]
  | @dropped field value rest result hnone hrest ih =>
    rw [Table.keys_cons, List.nodup_cons] at hkeys
    have hfield : field ∉ result.keys := fun hmem => hkeys.1 (hrest.keys_sublist.subset hmem)
    cases hwarned with
    | warned hunfilled hwarned =>
      rw [List.map_cons, ih hwarned hkeys.2, hunfilled.field_eq, Table.keys_cons,
        List.filter_cons_of_pos (by simpa using hfield)]
    | silent hsilent _ =>
      obtain ⟨warning, hunfilled⟩ := (exists_unfilled_iff stored hproper field value).mpr hnone
      exact absurd hunfilled (hsilent warning)

/-! ## Records -/

/-- The record of a warning, which names the field that the warning is about. -/
def Tells (logger : Logger) (warning : Warning) (record : LogRecord) : Prop :=
  record.level = .warning ∧ record.message = logger.label ++ warning.message ∧
    ∃ before after, record.message = before ++ warning.field ++ after

theorem tells_records (logger : Logger) (warnings : List Warning) :
    List.Forall₂ (Tells logger) warnings (records logger warnings) := by
  refine List.forall₂_map_right_iff.mpr (List.forall₂_same.mpr fun warning _ => ⟨rfl, rfl, ?_⟩)
  obtain ⟨before, after, hmessage⟩ := warning.exists_message_eq
  refine ⟨logger.label ++ before, after, ?_⟩
  change logger.label ++ warning.message = _
  rw [hmessage, ← String.append_assoc, ← String.append_assoc]

theorem exists_reconcile_eq_error_iff (stored input : Option Fields) :
    (∃ defect, reconcile spec (.ofFields? stored) input = .error defect) ↔
      ¬ WellFormed spec.userInput := by
  constructor
  · rintro ⟨defect, h⟩ hschema
    rw [reconcile_of_declared _ input (declared_of_wellFormed hschema)] at h
    cases h
  · intro hschema
    cases hdeclared : declared (.ofFields? spec.userInput) with
    | error defect =>
      refine ⟨defect, ?_⟩
      rw [reconcile, hdeclared]
      rfl
    | ok declarations => exact absurd (wellFormed_of_declared hdeclared) hschema

end

/-- Filling an input fails for a malformed schema only, whatever the places in it and the stored
configuration are, and then nothing is warned of. Otherwise the warnings are those about the declared
fields, in the order of the schema, and behind them those about the fields of the input, in its order.
The latter name the fields that the result lacks, each of them once, and tell a missing stored value
from a masked one. Each warning becomes a record that names its field. -/
theorem reconcile_warned (spec : Connector.OAuthSpecification) (stored input : Option Fields)
    (hproper : (Document.ofFields? spec.userInput).Proper)
    (hkeys : (Table.keys (input.getD [])).Nodup) :
    ((∃ defect, reconcile spec (.ofFields? stored) input = .error defect) ↔
      ¬ WellFormed spec.userInput) ∧
    (WellFormed spec.userInput →
      ∃ result ofSchema ofInput,
        reconcile spec (.ofFields? stored) input = .ok (result, ofSchema ++ ofInput) ∧
        Warned (Unresolved spec stored) (properties spec.userInput).keys ofSchema ∧
        Warned (Unfilled spec stored) (input.getD []) ofInput ∧
        ofInput.map Warning.field = (Table.keys (input.getD [])).filter (· ∉ result.keys) ∧
        (∀ field ∈ Table.keys (input.getD []), field ∉ result.keys →
          (ofInput.map Warning.field).count field = 1) ∧
        (∀ logger, List.Forall₂ (Tells logger) (ofSchema ++ ofInput)
          (records logger (ofSchema ++ ofInput))) ∧
        ∀ field other,
          (Warning.notStored field).message ≠ (Warning.storedMask other).message) := by
  refine ⟨exists_reconcile_eq_error_iff stored input, fun hschema => ?_⟩
  have hresult := reconcile_of_declared (.ofFields? stored) input (declared_of_wellFormed hschema)
  have hfirst := warned_resolve stored hproper
  rw [resolve_declared] at hresult
  have hfilled := filled_of_findings (mergeField_eq_ok_iff stored hproper) (input.getD [])
  have hsecond := warned_merge (get?_stored_eq_some_iff stored hproper) input
  have hfields := hsecond.fields_eq hproper hfilled hkeys
  refine ⟨_, _, _, hresult, hfirst, hsecond, hfields, fun field hfield hlacks => ?_,
    fun logger => tells_records logger _, Warning.message_notStored_ne⟩
  rw [hfields]
  exact List.count_eq_one_of_mem (hkeys.filter _)
    (List.mem_filter.mpr ⟨hfield, decide_eq_true hlacks⟩)

theorem reconcile_warned_sample :
    (Document.ofFields? sampleSpecification.userInput).Proper ∧ sampleInput.keys.Nodup ∧
    WellFormed sampleSpecification.userInput ∧
    ∃ result ofSchema ofInput,
      reconcile sampleSpecification (.ofFields? (some sampleConfiguration)) (some sampleInput) =
        .ok (result, ofSchema ++ ofInput) ∧
      Warned (Unresolved sampleSpecification (some sampleConfiguration))
        (properties sampleSpecification.userInput).keys ofSchema ∧
      Warned (Unfilled sampleSpecification (some sampleConfiguration)) sampleInput ofInput ∧
      ofInput.map Warning.field = sampleInput.keys.filter (· ∉ result.keys) ∧
      (∀ field ∈ sampleInput.keys, field ∉ result.keys →
        (ofInput.map Warning.field).count field = 1) ∧
      (∀ logger, List.Forall₂ (Tells logger) (ofSchema ++ ofInput)
        (records logger (ofSchema ++ ofInput))) ∧
      ∀ field other,
        (Warning.notStored field).message ≠ (Warning.storedMask other).message :=
  have hkeys : sampleInput.keys.Nodup := by decide
  ⟨sampleSpecification_proper, hkeys, sampleSpecification_wellFormed,
    (reconcile_warned sampleSpecification (some sampleConfiguration) (some sampleInput)
      sampleSpecification_proper hkeys).2 sampleSpecification_wellFormed⟩

example : (reconcile sampleSpecification (.ofFields? (some sampleConfiguration))
      (some sampleInput)).toOption.map Prod.snd =
    some [.notSingle "tokens", .notStored "tokens"] := by cbv

end AuthBroker.Input
