import AuthBroker.Input.Reconcile

/-! # Input with its secrets blotted out

Blotting a document leaves its keys, its shape and every value that is no text; of the texts only the
mask stays, and of the foreign values none can be told from another. What two documents have in common that are the same once blotted is all that filling
masked input looks at: a path leads to the same places, a field is masked or null in both or in
neither, and so the two inputs that come out are again the same once blotted, with the same
warnings (`reconcile_blotted`). -/

namespace AuthBroker

/-- What can still be told after blotting is the same for two values that are the same once
blotted. -/
theorem eq_of_blotted {α β : Type} {blot : α → α} {a a' : α} (h : blot a = blot a') (f : α → β)
    (hf : ∀ a, f (blot a) = f a) : f a = f a' := by
  rw [← hf, h, hf]

/-! ## Blotting -/

namespace Document

mutual

/-- The document with every text but the mask, and every description, blotted out. -/
def blotted : Document → Document
  | .null => .null
  | .bool value => .bool value
  | .int value => .int value
  | .float value => .float value
  | .text value => .text (if value = Input.mask then value else "")
  | .list items => .list (blottedItems items)
  | .tuple items => .tuple (blottedItems items)
  | .set items => .set (blottedItems items)
  | .object entries => .object (blottedEntries entries)
  | .foreign _ => .foreign ""

/-- The items of a list, tuple or set, each blotted. -/
def blottedItems : List Document → List Document
  | [] => []
  | item :: rest => item.blotted :: blottedItems rest

/-- The entries of a table with their values blotted. -/
def blottedEntries : List (String × Document) → List (String × Document)
  | [] => []
  | (key, value) :: rest => (key, value.blotted) :: blottedEntries rest

end

end Document

namespace Fields

/-- The table with the values under some keys blotted. -/
def blottedWhere (p : String → Bool) (fields : Fields) : Fields :=
  Table.mapValues (fun key d => if p key then d.blotted else d) fields

/-- The table with all values blotted. -/
def blotted (fields : Fields) : Fields :=
  Table.mapValues (fun _ => Document.blotted) fields

end Fields

namespace Document

theorem blotted_list (items : List Document) :
    blotted (.list items) = .list (items.map blotted) := by
  rw [blotted]
  congr 1
  induction items with
  | nil => rfl
  | cons item rest ih => rw [blottedItems, ih, List.map_cons]

theorem blottedEntries_eq (entries : Fields) : blottedEntries entries = entries.blotted := by
  induction entries with
  | nil => rfl
  | cons entry rest ih =>
    rw [blottedEntries, ih]
    rfl

theorem blotted_object (entries : Fields) : blotted (.object entries) = .object entries.blotted := by
  rw [blotted, blottedEntries_eq]

mutual

theorem blotted_blotted : ∀ d : Document, d.blotted.blotted = d.blotted
  | .null | .bool _ | .int _ | .float _ | .foreign _ => rfl
  | .text s => by
    by_cases h : s = Input.mask <;> simp [blotted, h]
  | .list items | .tuple items | .set items => by
    rw [blotted, blotted, blottedItems_blottedItems items]
  | .object entries => by rw [blotted, blotted, blottedEntries_blottedEntries entries]

theorem blottedItems_blottedItems :
    ∀ items : List Document, blottedItems (blottedItems items) = blottedItems items
  | [] => rfl
  | item :: rest => by
    rw [blottedItems, blottedItems, blotted_blotted item, blottedItems_blottedItems rest]

theorem blottedEntries_blottedEntries :
    ∀ entries : List (String × Document),
      blottedEntries (blottedEntries entries) = blottedEntries entries
  | [] => rfl
  | (key, value) :: rest => by
    rw [blottedEntries, blottedEntries, blotted_blotted value,
      blottedEntries_blottedEntries rest]

end

theorem isNull_blotted (d : Document) : d.blotted.isNull = d.isNull := by
  cases d <;> rfl

end Document

namespace Fields

theorem blotted_blotted (fields : Fields) : fields.blotted.blotted = fields.blotted := by
  simp [blotted, Table.mapValues, Document.blotted_blotted]

theorem blottedWhere_blottedWhere (p : String → Bool) (fields : Fields) :
    (fields.blottedWhere p).blottedWhere p = fields.blottedWhere p := by
  unfold blottedWhere Table.mapValues
  rw [List.map_map]
  refine List.map_congr_left fun entry _ => ?_
  by_cases h : p entry.1 = true <;> simp [h, Document.blotted_blotted]

theorem get?_blotted (fields : Fields) (key : String) :
    fields.blotted.get? key = (fields.get? key).map Document.blotted :=
  Table.get?_mapValues _ fields key

end Fields

/-! ## Paths -/

theorem Segment.select_blotted (step : Segment) (d : Document) :
    step.select d.blotted = (step.select d).map Document.blotted := by
  cases d with
  | object entries =>
    rw [Document.blotted_object]
    cases step with
    | key name =>
      simp only [Segment.select, Fields.get?_blotted]
      cases Table.get? entries name <;> rfl
    | index position => rfl
    | wildcard => simp [Segment.select, Table.values, Fields.blotted, Table.mapValues]
  | list items =>
    rw [Document.blotted_list]
    cases step with
    | key name => rfl
    | index position =>
      simp only [Segment.select, List.length_map]
      cases position? items.length position with
      | none => rfl
      | some place => simp [List.getElem?_map, Option.toList_map]
    | wildcard => rfl
  | _ => cases step <;> rfl

namespace Path

theorem query_blotted (path : Path) (d : Document) :
    path.query d.blotted = (path.query d).map Document.blotted := by
  induction path generalizing d with
  | nil => rfl
  | cons step rest ih =>
    rw [query_cons, query_cons, Segment.select_blotted, List.flatMap_map, List.map_flatMap]
    exact congrArg (List.flatMap · _) (funext ih)

theorem single?_blotted (path : Path) (d : Document) :
    path.single? d.blotted = (path.single? d).map Document.blotted := by
  unfold single?
  rw [query_blotted]
  cases path.query d with
  | nil => rfl
  | cons value rest =>
    cases rest with
    | nil => rfl
    | cons next rest => rfl

end Path

theorem Document.lookup_blotted (d : Document) (expression : String) :
    d.blotted.lookup expression = (d.lookup expression).map (·.map Document.blotted) := by
  unfold Document.lookup
  cases Path.parse expression with
  | error refusal => rfl
  | ok path => exact congrArg Except.ok (Path.single?_blotted path d)

/-! ## Filling -/

namespace Input

theorem isMask_blotted (d : Document) : isMask d.blotted = isMask d := by
  cases d with
  | text s =>
    by_cases h : s = mask
    · simp [Document.blotted, h]
    · have hs : (s == mask) = false := beq_eq_false_iff_ne.mpr h
      have hempty : ("" == mask) = false := by decide
      simp [Document.blotted, h, isMask, hempty]
  | _ => rfl

/-- Findings whose values are blotted. -/
def blottedFindings (findings : Table String Finding) : Table String Finding :=
  Table.mapValues (fun _ finding => finding.map Document.blotted) findings

theorem found_blotted (findings : Table String Finding) :
    found (blottedFindings findings) = (found findings).blotted := by
  induction findings with
  | nil => rfl
  | cons entry rest ih =>
    obtain ⟨field, finding⟩ := entry
    cases finding with
    | ok value => exact congrArg ((field, value.blotted) :: ·) ih
    | error warning => exact ih

theorem warnings_blotted (findings : Table String Finding) :
    warnings (blottedFindings findings) = warnings findings := by
  induction findings with
  | nil => rfl
  | cons entry rest ih =>
    obtain ⟨field, finding⟩ := entry
    cases finding with
    | ok value => exact ih
    | error warning => exact congrArg (warning :: ·) ih

theorem resolveField_blotted (configuration : Document) (field expression : String) :
    resolveField configuration.blotted field expression =
      (resolveField configuration field expression).map Document.blotted := by
  unfold resolveField
  rw [Document.isNull_blotted, Document.lookup_blotted]
  cases configuration.isNull with
  | true => rfl
  | false =>
    cases configuration.lookup expression with
    | error refusal => rfl
    | ok value =>
      cases value with
      | none => rfl
      | some d => rfl

theorem resolve_blotted (configuration : Document) (paths : Table String String) :
    resolve configuration.blotted paths =
      ((resolve configuration paths).1.blotted, (resolve configuration paths).2) := by
  have hfindings : (paths.map fun entry =>
        (entry.1, resolveField configuration.blotted entry.1 entry.2)) =
      blottedFindings (paths.map fun entry =>
        (entry.1, resolveField configuration entry.1 entry.2)) := by
    simp [blottedFindings, Table.mapValues, resolveField_blotted]
  have hresolve := congrArg (fun findings => (found findings, warnings findings)) hfindings
  exact hresolve.trans (Prod.ext (found_blotted _) (warnings_blotted _))

theorem mergeField_blotted (stored : Fields) (field : String) (value : Document) :
    mergeField stored.blotted field value.blotted =
      (mergeField stored field value).map Document.blotted := by
  unfold mergeField
  rw [isMask_blotted, Fields.get?_blotted]
  cases isMask value with
  | false => rfl
  | true =>
    cases stored.get? field with
    | none => rfl
    | some d =>
      simp only [Option.map_some, isMask_blotted]
      cases isMask d <;> rfl

theorem merge_blotted (stored : Fields) (input : Option Fields) :
    merge stored.blotted (input.map Fields.blotted) =
      ((merge stored input).1.blotted, (merge stored input).2) := by
  have hfindings : ((input.map Fields.blotted).getD []).map (fun entry =>
        (entry.1, mergeField stored.blotted entry.1 entry.2)) =
      blottedFindings ((input.getD []).map fun entry =>
        (entry.1, mergeField stored entry.1 entry.2)) := by
    cases input with
    | none => rfl
    | some fields =>
      induction fields with
      | nil => rfl
      | cons entry rest ih =>
        have hentry := congrArg (entry.1, ·) (mergeField_blotted stored entry.1 entry.2)
        exact List.cons_eq_cons.mpr ⟨hentry, ih⟩
  have hmerge := congrArg (fun findings => (found findings, warnings findings)) hfindings
  exact hmerge.trans (Prod.ext (found_blotted _) (warnings_blotted _))

/-- Input that is filled from blotted documents is what came out before, blotted. The warnings are
the same. -/
theorem reconcile_blotted (spec : Connector.OAuthSpecification) (configuration : Document)
    (input : Option Fields) :
    reconcile spec configuration.blotted (input.map Fields.blotted) =
      (reconcile spec configuration input).map fun (result, warnings) =>
        (result.blotted, warnings) := by
  unfold reconcile
  cases declared (.ofFields? spec.userInput) with
  | error defect => rfl
  | ok declarations =>
    simp only [Except.map]
    rw [resolve_blotted, merge_blotted]

end Input

end AuthBroker
