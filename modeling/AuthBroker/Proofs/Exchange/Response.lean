import AuthBroker.Exchange.Response
import AuthBroker.Proofs.Json.Number
import AuthBroker.Proofs.Json.Reading

/-! # Normalized answers

Of all documents only the text `true` is shown as `true` (`Document.display_eq_true_iff`): no number,
list or table is, and no word for null or a truth value. So a reported status means success if it is
the truth value or that text, and an answer that was normalized is normalized to itself, whether its
fields stand side by side or the payload stands under a key of its own (`ofAnswer_normalized`). -/

namespace AuthBroker

/-! ## Documents that are shown as `true` -/

namespace Document

theorem head?_number_ne {cs : List Char} {d : Document} (h : Json.IsNumber cs d) :
    cs.head? ≠ some 't' := by
  obtain ⟨c, more, rfl, hc, -⟩ := h.front
  intro heq
  cases heq
  cases hc

theorem head?_display_float_ne (x : Binary64) : x.display.head? ≠ some 't' := by
  cases x with
  | nan => decide
  | infinite negative => cases negative <;> decide
  | finite negative rank => exact head?_number_ne (Json.isNumber_finiteText _ negative rank)

theorem head?_quoted_ne (text : String) : (Text.quoted text).head? ≠ some 't' := by
  rw [Text.quoted, List.head?_cons, Text.quoteFor]
  split <;> decide

theorem head?_displayNested_ne (d : Document) : d.displayNested.head? ≠ some 't' := by
  cases d with
  | null => decide
  | bool value => cases value <;> decide
  | int n => exact head?_number_ne (Json.isNumber_intText n)
  | float x => exact head?_display_float_ne x
  | text s => exact head?_quoted_ne s
  | list items =>
    change some '[' ≠ some 't'
    decide
  | tuple items =>
    change some '(' ≠ some 't'
    decide
  | set items =>
    rw [displayNested]
    split <;> simp
  | object entries =>
    change some '\x7b' ≠ some 't'
    decide
  | foreign description =>
    change some '<' ≠ some 't'
    decide

theorem display_eq_true_iff (d : Document) : d.display = "true" ↔ d = .text "true" := by
  have hnested : String.ofList d.displayNested ≠ "true" := by
    intro h
    have hlist := congrArg (fun s : String => s.toList.head?) h
    rw [String.toList_ofList] at hlist
    exact head?_displayNested_ne d hlist
  cases d with
  | text s => rw [display, Document.text.injEq]
  | _ => exact iff_of_false hnested nofun

end Document

namespace Exchange.Response

/-- The keys of an answer that carry its status. -/
def reservedKeys : List String := [succeededKey, errorKey]

/-- A response as an answer: the two fields of the status, and the entries of the payload. -/
def flattened (response : Response) : Fields :=
  (succeededKey, .bool response.succeeded) :: (errorKey, .ofText? response.error) ::
    response.payload

theorem isSuccess_iff (d : Document) :
    isSuccess d = true ↔ d = .bool true ∨ d = .text "true" := by
  cases d with
  | bool value => simp [isSuccess]
  | _ => simp [isSuccess, Document.display_eq_true_iff]

section
variable (answer : Fields)

theorem succeeded_ofAnswer_iff :
    (ofAnswer answer).succeeded = true ↔
      answer.get? succeededKey = none ∨ answer.get? succeededKey = some (.bool true) ∨
        answer.get? succeededKey = some (.text "true") := by
  change (answer.get? succeededKey).elim true isSuccess = true ↔ _
  cases answer.get? succeededKey with
  | none => simp
  | some d => simp [isSuccess_iff]

theorem error_ofAnswer_eq_some_iff (text : String) :
    (ofAnswer answer).error = some text ↔
      ∃ d, answer.get? errorKey = some d ∧ d ≠ .null ∧ text = d.display := by
  unfold ofAnswer
  dsimp only
  cases answer.get? errorKey with
  | none => simp
  | some d => cases d <;> simp [eq_comm]

theorem error_ofAnswer_eq_none_iff :
    (ofAnswer answer).error = none ↔
      answer.get? errorKey = none ∨ answer.get? errorKey = some .null := by
  rw [Option.eq_none_iff_forall_ne_some]
  simp only [ne_eq, error_ofAnswer_eq_some_iff]
  cases answer.get? errorKey with
  | none => simp
  | some d => simp

theorem payload_ofAnswer :
    (ofAnswer answer).payload = answer.filter fun entry => entry.1 ∉ reservedKeys := by
  refine List.filter_congr fun entry _ => ?_
  simp [reservedKeys, bne, beq_eq_decide]

end

/-! ## Normalizing again -/

/-- An answer that starts with a status in its normal form keeps it. -/
theorem ofAnswer_status (succeeded : Bool) (error : Option String) (rest : Fields) :
    ofAnswer ((succeededKey, .bool succeeded) :: (errorKey, .ofText? error) :: rest) =
      ⟨succeeded, error, rest.filter fun entry => entry.1 ∉ reservedKeys⟩ := by
  have hpayload := payload_ofAnswer
    ((succeededKey, .bool succeeded) :: (errorKey, .ofText? error) :: rest)
  rw [List.filter_cons_of_neg (by simp [reservedKeys]),
    List.filter_cons_of_neg (by simp [reservedKeys])] at hpayload
  rw [← hpayload]
  cases error <;> rfl

theorem ofAnswer_flattened {response : Response}
    (h : ∀ entry ∈ response.payload, entry.1 ∉ reservedKeys) :
    ofAnswer response.flattened = response := by
  rw [flattened, ofAnswer_status, List.filter_eq_self.mpr]
  exact fun entry hentry => decide_eq_true (h entry hentry)

theorem notMem_reservedKeys_of_mem_payload {answer : Fields} :
    ∀ entry ∈ (ofAnswer answer).payload, entry.1 ∉ reservedKeys := by
  intro entry hentry
  rw [payload_ofAnswer] at hentry
  exact of_decide_eq_true (List.mem_filter.mp hentry).2

theorem ofAnswer_dump (response : Response) :
    ∃ dump, response.toDocument = .object dump ∧
      ofAnswer dump = { response with payload := [("auth_payload", .object response.payload)] } :=
  ⟨_, rfl, ofAnswer_status response.succeeded response.error _⟩

/-- Whatever a provider answers, the exchange succeeded if the status is missing, the truth value or
the text `true`. The error is the text of the reported one, unless that is missing or null, and the
rest of the answer is payload, in order. Normalizing once more changes nothing, and the document of a
response keeps the status when it is normalized and has the payload under its own key. -/
theorem ofAnswer_normalized (answer : Fields) :
    ((ofAnswer answer).succeeded = true ↔
      answer.get? succeededKey = none ∨ answer.get? succeededKey = some (.bool true) ∨
        answer.get? succeededKey = some (.text "true")) ∧
    ((ofAnswer answer).error = none ↔
      answer.get? errorKey = none ∨ answer.get? errorKey = some .null) ∧
    (∀ text, (ofAnswer answer).error = some text ↔
      ∃ d, answer.get? errorKey = some d ∧ d ≠ .null ∧ text = d.display) ∧
    (ofAnswer answer).payload = (answer.filter fun entry => entry.1 ∉ reservedKeys) ∧
    ofAnswer (ofAnswer answer).flattened = ofAnswer answer ∧
    ∃ dump, (ofAnswer answer).toDocument = .object dump ∧
      ofAnswer dump =
        { ofAnswer answer with
          payload := [("auth_payload", .object (ofAnswer answer).payload)] } :=
  ⟨succeeded_ofAnswer_iff answer, error_ofAnswer_eq_none_iff answer,
    error_ofAnswer_eq_some_iff answer, payload_ofAnswer answer,
    ofAnswer_flattened notMem_reservedKeys_of_mem_payload, ofAnswer_dump _⟩

end Exchange.Response

end AuthBroker
