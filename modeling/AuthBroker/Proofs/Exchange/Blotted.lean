import AuthBroker.Exchange.Request
import AuthBroker.Proofs.Agreement
import AuthBroker.Proofs.Input.Blotted
import AuthBroker.Secret.Payload

/-! # Records and responses with their secrets blotted out

Records are read alike from documents that differ only in what may be blotted out, down to the
problems they are refused for (`Connector.Actor.check_agree` and its siblings). A provider's answer is
normalized alike (`Exchange.Response.ofAnswer_blotted`), and whether a response can be written as
text, and why not, is the same for two responses that are the same once blotted
(`Secret.payloadText_agree`). -/

namespace AuthBroker

/-! ## Fields of a record -/

namespace Read

theorem table_blotted (d : Document) : table d.blotted = (table d).map Fields.blotted := by
  cases d with
  | object entries =>
    rw [Document.blotted_object]
    rfl
  | _ => rfl

theorem nullable_table_blotted (d : Document) :
    nullable table d.blotted = (nullable table d).map (·.map Fields.blotted) := by
  cases d with
  | object entries =>
    rw [Document.blotted_object]
    rfl
  | _ => rfl

end Read

theorem Check.map_within {α β : Type} (f : α → β) (place : Problem.Place) (c : Check α) :
    (c.within place).map f = (c.map f).within place := by
  cases c <;> rfl

namespace Fields

variable {α : Type} {p : String → Bool} {fields fields' : Fields} {name : String}
  {reader : Document → Check α}

theorem get?_blottedWhere (p : String → Bool) (fields : Fields) (name : String) :
    (fields.blottedWhere p).get? name =
      (fields.get? name).map fun d => if p name then d.blotted else d :=
  Table.get?_mapValues _ fields name

/-- A field that is never blotted is the same in both tables. -/
theorem get?_eq_of_kept (h : fields.blottedWhere p = fields'.blottedWhere p)
    (hname : p name = false) : fields.get? name = fields'.get? name := by
  have hget := congrArg (Table.get? · name) h
  simpa [get?_blottedWhere, hname] using hget

theorem required_kept (h : fields.blottedWhere p = fields'.blottedWhere p)
    (hname : p name = false) :
    Check.Agree (· = ·) (fields.required name reader) (fields'.required name reader) := by
  refine .of_eq ?_
  rw [required, required, get?_eq_of_kept h hname]

theorem withDefault_kept (h : fields.blottedWhere p = fields'.blottedWhere p)
    (hname : p name = false) {default : α} :
    Check.Agree (· = ·) (fields.withDefault name default reader)
      (fields'.withDefault name default reader) := by
  refine .of_eq ?_
  rw [withDefault, withDefault, get?_eq_of_kept h hname]

section
variable {f : α → α} (hreader : ∀ d, reader d.blotted = (reader d).map f)
include hreader

theorem required_blotted (h : fields.blottedWhere p = fields'.blottedWhere p)
    (hname : p name = true) :
    Check.Agree (fun a b => f a = f b) (fields.required name reader)
      (fields'.required name reader) := by
  have hmap : ∀ fields : Fields,
      (fields.blottedWhere p).required name reader = (fields.required name reader).map f := by
    intro fields
    rw [required, required, get?_blottedWhere, hname]
    cases fields.get? name with
    | none => rfl
    | some d => simp [hreader, Check.map_within]
  refine .of_map_eq ?_
  rw [← hmap, ← hmap, h]

theorem withDefault_blotted (h : fields.blottedWhere p = fields'.blottedWhere p)
    (hname : p name = true) {default : α} (hdefault : f default = default) :
    Check.Agree (fun a b => f a = f b) (fields.withDefault name default reader)
      (fields'.withDefault name default reader) := by
  have hmap : ∀ fields : Fields, (fields.blottedWhere p).withDefault name default reader =
      (fields.withDefault name default reader).map f := by
    intro fields
    rw [withDefault, withDefault, get?_blottedWhere, hname]
    cases fields.get? name with
    | none => exact congrArg Check.valid hdefault.symm
    | some d => simp [hreader, Check.map_within]
  refine .of_map_eq ?_
  rw [← hmap, ← hmap, h]

end

end Fields

/-! ## Records -/

/-- The fields of records and requests whose values may hold secrets. -/
def secretFields : List String :=
  ["configuration", "oauth_input_configuration", "query_params", "params", "auth_payload"]

namespace Document

/-- A record or request with its secrets blotted out. -/
def blottedRecord : Document → Document
  | .object entries => .object (Fields.blottedWhere secretFields.contains entries)
  | d => d

theorem blottedRecord_blottedRecord (d : Document) :
    d.blottedRecord.blottedRecord = d.blottedRecord := by
  cases d with
  | object entries => exact congrArg Document.object (Fields.blottedWhere_blottedWhere _ entries)
  | _ => rfl

theorem entries?_blottedRecord (d : Document) :
    d.blottedRecord.entries? = d.entries?.map (·.blottedWhere secretFields.contains) := by
  cases d <;> rfl

end Document

theorem Read.record_agree {α β : Type} {R : α → β → Prop} {read : Fields → Check α}
    {read' : Fields → Check β} {d d' : Document} (h : d.blottedRecord = d'.blottedRecord)
    (hread : ∀ fields fields' : Fields, fields.blottedWhere secretFields.contains =
      fields'.blottedWhere secretFields.contains → Check.Agree R (read fields) (read' fields')) :
    Check.Agree R (record read d) (record read' d') := by
  have hrecord : ∀ {γ : Type} (read : Fields → Check γ) (d : Document), record read d =
      d.entries?.elim (.refuse .notRecord) read := by
    intro γ read d
    cases d <;> rfl
  have hentries := congrArg Document.entries? h
  rw [Document.entries?_blottedRecord, Document.entries?_blottedRecord] at hentries
  rw [hrecord, hrecord]
  cases hd : d.entries? with
  | none =>
    rw [hd] at hentries
    rw [Option.map_eq_none_iff.mp hentries.symm]
    exact .invalid _
  | some fields =>
    rw [hd] at hentries
    obtain ⟨fields', hd', hfields⟩ := Option.map_eq_some_iff.mp hentries.symm
    rw [hd']
    exact hread fields fields' hfields.symm

namespace Connector

/-- The actor with its configuration blotted. -/
def Actor.blotted (actor : Actor) : Actor :=
  { actor with configuration := actor.configuration.blotted }

/-- The parameter with its configuration blotted. -/
def Parameter.blotted (parameter : Parameter) : Parameter :=
  { parameter with configuration := parameter.configuration.blotted }

theorem Actor.withConfiguration_congr {a a' : Actor} (h : a.blotted = a'.blotted)
    {configuration configuration' : Fields}
    (hc : configuration.blotted = configuration'.blotted) :
    ({ a with configuration := configuration } : Actor).blotted =
      ({ a' with configuration := configuration' } : Actor).blotted := by
  change ({ a.blotted with configuration := configuration.blotted } : Actor) =
    { a'.blotted with configuration := configuration'.blotted }
  rw [h, hc]

theorem Parameter.withConfiguration_congr {p p' : Parameter} (h : p.blotted = p'.blotted)
    {configuration configuration' : Fields}
    (hc : configuration.blotted = configuration'.blotted) :
    ({ p with configuration := configuration } : Parameter).blotted =
      ({ p' with configuration := configuration' } : Parameter).blotted := by
  change ({ p.blotted with configuration := configuration.blotted } : Parameter) =
    { p'.blotted with configuration := configuration'.blotted }
  rw [h, hc]

theorem Actor.check_agree {d d' : Document} (h : d.blottedRecord = d'.blottedRecord) :
    Check.Agree (fun a b => a.blotted = b.blotted) (check d) (check d') := by
  refine Read.record_agree h fun fields fields' hfields => ?_
  refine .seq (.seq (.seq (.seq (.seq (.map (Fields.required_kept hfields rfl) ?_)
    (Fields.required_kept hfields rfl)) (Fields.required_kept hfields rfl))
    (Fields.required_kept hfields rfl)) (Fields.withDefault_kept hfields rfl))
    (Fields.withDefault_blotted Read.table_blotted hfields rfl rfl)
  rintro id _ rfl definition _ rfl workspace _ rfl side _ rfl name _ rfl configuration _ hblotted
  exact congrArg (Actor.mk id definition workspace side name) hblotted

theorem Parameter.check_agree {d d' : Document} (h : d.blottedRecord = d'.blottedRecord) :
    Check.Agree (fun a b => a.blotted = b.blotted) (check d) (check d') := by
  refine Read.record_agree h fun fields fields' hfields => ?_
  refine .seq (.seq (.seq (.seq (.map (Fields.required_kept hfields rfl) ?_)
    (Fields.required_kept hfields rfl)) (Fields.required_kept hfields rfl))
    (Fields.withDefault_kept hfields rfl))
    (Fields.withDefault_blotted Read.table_blotted hfields rfl rfl)
  rintro id _ rfl definition _ rfl side _ rfl workspace _ rfl configuration _ hblotted
  exact congrArg (Parameter.mk id definition side workspace) hblotted

end Connector

namespace Exchange

/-- The request with its input blotted. -/
def ConsentRequest.blotted (request : ConsentRequest) : ConsentRequest :=
  { request with input := request.input.map Fields.blotted }

/-- The request with its input and query blotted. -/
def CompletionRequest.blotted (request : CompletionRequest) : CompletionRequest :=
  { request with
    toConsentRequest := request.toConsentRequest.blotted
    query := request.query.blotted }

/-- The request with its parameters blotted. -/
def ParameterRequest.blotted (request : ParameterRequest) : ParameterRequest :=
  { request with parameters := request.parameters.blotted }

/-- The response with its payload blotted. -/
def Response.blotted (response : Response) : Response :=
  { response with payload := response.payload.blotted }

theorem Response.blotted_eq_iff {r r' : Response} : r.blotted = r'.blotted ↔
    r.succeeded = r'.succeeded ∧ r.error = r'.error ∧ r.payload.blotted = r'.payload.blotted := by
  simp [blotted]

theorem ConsentRequest.fields_agree {fields fields' : Fields}
    (h : fields.blottedWhere secretFields.contains = fields'.blottedWhere secretFields.contains) :
    Check.Agree (fun a b => a.blotted = b.blotted) (ConsentRequest.fields fields)
      (ConsentRequest.fields fields') := by
  refine .seq (.seq (.seq (.seq (.map (Fields.required_kept h rfl) ?_)
    (Fields.required_kept h rfl)) (Fields.required_kept h rfl))
    (Fields.withDefault_kept h rfl))
    (Fields.withDefault_blotted Read.nullable_table_blotted h rfl rfl)
  rintro definition _ rfl workspace _ rfl url _ rfl actor _ rfl input _ hblotted
  exact congrArg (ConsentRequest.mk definition workspace url actor) hblotted

theorem ConsentRequest.check_agree {d d' : Document} (h : d.blottedRecord = d'.blottedRecord) :
    Check.Agree (fun a b => a.blotted = b.blotted) (check d) (check d') :=
  Read.record_agree h fun _ _ => fields_agree

theorem CompletionRequest.check_agree {d d' : Document} (h : d.blottedRecord = d'.blottedRecord) :
    Check.Agree (fun a b => a.blotted = b.blotted) (check d) (check d') := by
  refine Read.record_agree h fun fields fields' hfields => ?_
  refine .seq (.seq (.map (ConsentRequest.fields_agree hfields) ?_)
    (Fields.withDefault_blotted Read.table_blotted hfields rfl rfl))
    (Fields.withDefault_kept hfields rfl)
  rintro request request' hrequest query query' hquery asSecret _ rfl
  simp only [CompletionRequest.blotted]
  rw [hrequest, hquery]

theorem ParameterRequest.check_agree {d d' : Document} (h : d.blottedRecord = d'.blottedRecord) :
    Check.Agree (fun a b => a.blotted = b.blotted) (check d) (check d') := by
  refine Read.record_agree h fun fields fields' hfields => ?_
  refine .seq (.map (Fields.required_kept hfields rfl) ?_)
    (Fields.required_blotted Read.table_blotted hfields rfl)
  rintro definition _ rfl parameters _ hblotted
  exact congrArg (ParameterRequest.mk definition) hblotted

theorem Response.check_agree {d d' : Document} (h : d.blottedRecord = d'.blottedRecord) :
    Check.Agree (fun a b => a.blotted = b.blotted) (check d) (check d') := by
  refine Read.record_agree h fun fields fields' hfields => ?_
  refine .seq (.seq (.map (Fields.withDefault_kept hfields rfl) ?_)
    (Fields.withDefault_kept hfields rfl))
    (Fields.withDefault_blotted Read.table_blotted hfields rfl rfl)
  rintro succeeded _ rfl error _ rfl payload _ hblotted
  exact congrArg (Response.mk succeeded error) hblotted

/-! ## Answers of providers -/

namespace Response

/-- A provider's answer with all but its status blotted. -/
def blottedAnswer (answer : Fields) : Fields :=
  answer.blottedWhere fun key => key != succeededKey && key != errorKey

theorem get?_blottedAnswer {key : String} (h : (key != succeededKey && key != errorKey) = false)
    (answer : Fields) : (blottedAnswer answer).get? key = answer.get? key := by
  rw [blottedAnswer, Fields.get?_blottedWhere, h]
  simp

theorem ofAnswer_blotted (answer : Fields) :
    ofAnswer (blottedAnswer answer) = (ofAnswer answer).blotted := by
  have hpayload : (blottedAnswer answer).filter
        (fun entry => entry.1 != succeededKey && entry.1 != errorKey) =
      Fields.blotted (answer.filter
        fun entry => entry.1 != succeededKey && entry.1 != errorKey) := by
    induction answer with
    | nil => rfl
    | cons entry rest ih =>
      unfold blottedAnswer Fields.blottedWhere Table.mapValues at ih ⊢
      rw [List.map_cons, List.filter_cons, List.filter_cons, ih]
      cases hkey : entry.1 != succeededKey && entry.1 != errorKey with
      | false => rfl
      | true =>
        simp only [hkey]
        rfl
  unfold ofAnswer blotted
  rw [get?_blottedAnswer rfl, get?_blottedAnswer rfl, hpayload]

end Response

end Exchange

/-! ## Responses as text -/

namespace Document

mutual

theorem json_agree : ∀ (levels : Nat) (d : Document),
    Agree (fun _ _ => True) (json levels d.blotted) (json levels d)
  | 0, d => by
    simp only [json]
    exact .error _
  | levels + 1, .text s => by
    simp only [blotted, json]
    exact .ok trivial
  | levels + 1, .list items | levels + 1, .tuple items | levels + 1, .set items => by
    simp only [blotted, json]
    exact (jsonItems_agree levels items).map fun _ _ _ => trivial
  | levels + 1, .object entries => by
    simp only [blotted, json]
    exact (jsonEntries_agree levels entries).map fun _ _ _ => trivial
  | levels + 1, .null | levels + 1, .bool true | levels + 1, .bool false | levels + 1, .int _
  | levels + 1, .float _ | levels + 1, .foreign _ => .of_eq rfl fun _ => trivial

theorem jsonItems_agree : ∀ (levels : Nat) (items : List Document),
    Agree (fun _ _ => True) (jsonItems levels (blottedItems items)) (jsonItems levels items)
  | levels, [] => by
    simp only [blottedItems, jsonItems]
    exact .ok trivial
  | levels, [item] => by
    simp only [blottedItems, jsonItems]
    exact (json_agree levels item).bind fun _ _ _ => .ok trivial
  | levels, item :: next :: rest => by
    have hrest := jsonItems_agree levels (next :: rest)
    simp only [blottedItems, jsonItems] at hrest ⊢
    exact (json_agree levels item).bind fun _ _ _ => hrest.bind fun _ _ _ => .ok trivial

theorem jsonEntries_agree : ∀ (levels : Nat) (entries : List (String × Document)),
    Agree (fun _ _ => True) (jsonEntries levels (blottedEntries entries))
      (jsonEntries levels entries)
  | levels, [] => by
    simp only [blottedEntries, jsonEntries]
    exact .ok trivial
  | levels, [(key, value)] => by
    simp only [blottedEntries, jsonEntries]
    exact (json_agree levels value).bind fun _ _ _ => .ok trivial
  | levels, (key, value) :: next :: rest => by
    have hrest := jsonEntries_agree levels (next :: rest)
    simp only [blottedEntries, jsonEntries] at hrest ⊢
    exact (json_agree levels value).bind fun _ _ _ => hrest.bind fun _ _ _ => .ok trivial

end

end Document

namespace Document

mutual

theorem searchLevels_blotted : ∀ d : Document, d.blotted.searchLevels = d.searchLevels
  | .list items | .tuple items => by
    rw [blotted, searchLevels, searchLevels, searchLevelsItems_blotted items]
  | .object entries => by
    rw [blotted, searchLevels, searchLevels, searchLevelsEntries_blotted entries]
  | .null | .bool _ | .int _ | .float _ | .text _ | .set _ | .foreign _ => rfl

theorem searchLevelsItems_blotted : ∀ items : List Document,
    searchLevelsItems (blottedItems items) = searchLevelsItems items
  | [] => rfl
  | item :: rest => by
    rw [blottedItems, searchLevelsItems, searchLevelsItems, searchLevels_blotted item,
      searchLevelsItems_blotted rest]

theorem searchLevelsEntries_blotted : ∀ entries : List (String × Document),
    searchLevelsEntries (blottedEntries entries) = searchLevelsEntries entries
  | [] => rfl
  | (key, value) :: rest => by
    rw [blottedEntries, searchLevelsEntries, searchLevelsEntries, searchLevels_blotted value,
      searchLevelsEntries_blotted rest]

end

end Document

namespace Secret

mutual

theorem nonFinite_blotted : ∀ (place : String) (d : Document),
    nonFinite place d.blotted = nonFinite place d
  | _, .null | _, .bool _ | _, .int _ | _, .float _ | _, .text _ | _, .set _ | _, .foreign _ => rfl
  | place, .list items | place, .tuple items => by
    simp only [Document.blotted, nonFinite]
    exact nonFiniteItems_blotted place 0 items
  | place, .object entries => by
    simp only [Document.blotted, nonFinite]
    exact nonFiniteEntries_blotted place entries

theorem nonFiniteItems_blotted : ∀ (place : String) (position : Nat) (items : List Document),
    nonFiniteItems place position (Document.blottedItems items) =
      nonFiniteItems place position items
  | _, _, [] => rfl
  | place, position, item :: rest => by
    simp only [Document.blottedItems, nonFiniteItems]
    rw [nonFinite_blotted, nonFiniteItems_blotted]

theorem nonFiniteEntries_blotted : ∀ (place : String) (entries : List (String × Document)),
    nonFiniteEntries place (Document.blottedEntries entries) = nonFiniteEntries place entries
  | _, [] => rfl
  | place, (key, value) :: rest => by
    simp only [Document.blottedEntries, nonFiniteEntries]
    rw [nonFinite_blotted, nonFiniteEntries_blotted]

end

theorem search_blotted (room : Nat) (payload : Fields) :
    search room payload.blotted = search room payload := by
  unfold search nonFinitePlaces
  rw [← Document.blotted_object, Document.searchLevels_blotted, nonFinite_blotted]

/-- Two responses that are the same once blotted both have a text, or neither has one, and then for
the same cause. -/
theorem payloadText_agree (room : Nat) {r r' : Exchange.Response} (h : r.blotted = r'.blotted) :
    Agree (fun _ _ => True) (payloadText room r) (payloadText room r') := by
  obtain ⟨hsucceeded, herror, hpayload⟩ := Exchange.Response.blotted_eq_iff.mp h
  have hsearch : search room r.payload = search room r'.payload := by
    rw [← search_blotted, hpayload, search_blotted]
  have hdocument : r.toDocument.blotted = r'.toDocument.blotted := by
    unfold Exchange.Response.toDocument
    rw [hsucceeded, herror]
    simp only [Document.blotted, Document.blottedEntries, Document.blottedEntries_eq, hpayload]
  -- both are printed as their common blotted document is
  have hjson : Agree (fun _ _ => True) r.json r'.json := by
    have hr := Document.json_agree Exchange.Response.maxLevels r.toDocument
    have hr' := Document.json_agree Exchange.Response.maxLevels r'.toDocument
    rw [hdocument] at hr
    exact (hr.symm.trans hr').map fun _ _ _ => trivial
  unfold payloadText
  rw [hsearch]
  split
  · exact .error _
  · exact hjson.mapError Unwritable.unprintable
  · exact .error _

end Secret

end AuthBroker
