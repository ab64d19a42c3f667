import AuthBroker.Proofs.Agreement
import AuthBroker.Proofs.Secret.Cipher
import AuthBroker.Proofs.Secret.Coordinate
import AuthBroker.Secret.Request

/-! # What a store replies

Any caller may ask a store to keep payloads and to read them back. As long as every version is an
integer that can be shown and every payload can be encoded (`Request.Plain`), what it has to reply is
told by the earlier requests alone: a payload that it reads back is the one stored last under the address
(`dues`). One lemma on what a put does (`Kind.Lawful`) gives by induction over the requests that a store
replies so (`Lawful.replies_eq`). The ledger, which scans its writes, and the vault, which looks up the
written address, are both lawful, and so is any store that seals its texts by a cipher that can be undone.
What the broker's own store reads is due as well (`Store.get?_eq_lastStored`). -/

namespace AuthBroker.Secret

open Text (Points)

/-! ## Written addresses -/

namespace Version

theorem v_notMem_text (version : Version) : 'v' ∉ version.text := by
  cases version with
  | number n => exact Coordinate.v_notMem_intText n
  | flag value => cases value <;> decide

/-- Integers are written without letters. -/
theorem text_number_ne_flag (n : Int) (value : Bool) : (number n).text ≠ (flag value).text := by
  intro h
  have he : 'e' ∈ (flag value).text := by cases value <;> decide
  exact Document.notMem_intText (by decide) (by decide) n (h ▸ he)

theorem text_injective : Function.Injective text := by
  intro version other h
  cases version with
  | number n =>
    cases other with
    | number m => exact congrArg number (Document.intText_injective h)
    | flag value => exact absurd h (text_number_ne_flag n value)
  | flag value =>
    cases other with
    | number m => exact absurd h.symm (text_number_ne_flag m value)
    | flag other => cases value <;> cases other <;> first | rfl | exact absurd h (by decide)

end Version

namespace Address

/-- No two addresses are written alike, whatever their bases end in. -/
theorem text_injective : Function.Injective text := by
  intro address other h
  have hcharacter : Function.Injective Text.Point.character := fun _ _ => Text.Point.character.inj
  have hnot (version : Version) :
      Text.Point.character 'v' ∉ version.text.map Text.Point.character := by
    rw [List.mem_map_of_injective hcharacter]
    exact version.v_notMem_text
  obtain ⟨hbase, hversion⟩ :=
    Coordinate.parts_eq_of_notMem (hnot address.version) (hnot other.version) h
  obtain ⟨base, version⟩ := address
  obtain ⟨base', version'⟩ := other
  obtain rfl : base = base' := hbase
  obtain rfl : version = version' := Version.text_injective (List.map_injective_iff.mpr hcharacter hversion)
  rfl

/-- The version is an integer, and no longer than one that is shown. -/
def Plain (address : Address) : Prop :=
  address.version.isShort = true ∧ ∃ n, address.version = .number n

variable {address other : Address}

theorem Plain.written_eq (h : address.Plain) : address.written = .ok address.text :=
  if_pos h.1

theorem Plain.beq_eq (h : address.Plain) (hother : other.Plain) :
    (other == address) = decide (other = address) := by
  obtain ⟨base, version⟩ := address
  obtain ⟨base', version'⟩ := other
  obtain ⟨-, n, rfl⟩ := h
  obtain ⟨-, m, rfl⟩ := hother
  change (base' == base && m == n) = _
  rw [Bool.eq_iff_iff]
  simp

end Address

/-! ## What is due -/

/-- The request has a plain address, and what it stores has no surrogates. -/
def Request.Plain : Request → Prop
  | .store address payload => address.Plain ∧ ∃ text, payload = .ofString text
  | .read address => address.Plain

/-- The payload stored last under an address, after the given requests. -/
def lastStored (address : Address) (earlier : List Request) : Option Points :=
  earlier.foldl (fun last request =>
    match request with
    | .store other payload => if address = other then some payload else last
    | .read _ => last) none

def due (earlier : List Request) : Request → Except Refusal Reply
  | .store address _ => .ok (.stored address)
  | .read address =>
    match lastStored address earlier with
    | some payload => .ok (.payload payload)
    | none => .error (.notFound address.text)

/-- What a store has to reply to requests that come after the given ones. -/
def dues (earlier : List Request) : List Request → List (Except Refusal Reply)
  | [] => []
  | request :: rest => due earlier request :: dues (earlier ++ [request]) rest

theorem lastStored_append_store (address other : Address) (payload : Points)
    (earlier : List Request) :
    lastStored address (earlier ++ [.store other payload]) =
      if address = other then some payload else lastStored address earlier := by
  rw [lastStored, List.foldl_append]
  rfl

theorem lastStored_append_read (address other : Address) (earlier : List Request) :
    lastStored address (earlier ++ [.read other]) = lastStored address earlier := by
  rw [lastStored, List.foldl_append]
  rfl

/-! ## Lawful stores -/

/-- Stores that are fine take every plain request, stay fine, and find what was put last. -/
structure Kind.Lawful {σ : Type} (kind : Kind σ) (fine : σ → Prop) : Prop where
  put : ∀ {s : σ}, fine s → ∀ {address : Address}, address.Plain → ∀ text : String,
    ∃ after, kind.put s address (.ofString text) = .ok after ∧ fine after ∧
      ∀ {other : Address}, other.Plain → kind.find after other =
        if other = address then .ok (some (.ofString text)) else kind.find s other

section
variable {σ : Type} {kind : Kind σ} {fine : σ → Prop}

def Kind.Tells (kind : Kind σ) (s : σ) (earlier : List Request) : Prop :=
  ∀ {address : Address}, address.Plain → kind.find s address = .ok (lastStored address earlier)

theorem Kind.Tells.read_eq {s : σ} {earlier : List Request} {address : Address}
    (h : kind.Tells s earlier) (haddress : address.Plain) :
    (kind.read s address).map .payload = due earlier (.read address) := by
  rw [Kind.read, h haddress, due]
  cases lastStored address earlier with
  | some payload => rfl
  | none =>
    change ((address.written >>= fun written => .error (.notFound written)) : Except _ Points).map _ = _
    rw [haddress.written_eq]
    rfl

/-- One request: the reply is due, and the store goes on to tell the last payloads. -/
theorem Kind.Lawful.serve (h : kind.Lawful fine) {s : σ} {earlier : List Request} (hs : fine s)
    (htells : kind.Tells s earlier) {request : Request} (hplain : request.Plain) :
    (kind.serve s request).1 = due earlier request ∧ fine (kind.serve s request).2 ∧
      kind.Tells (kind.serve s request).2 (earlier ++ [request]) := by
  cases request with
  | store address payload =>
    obtain ⟨haddress, text, rfl⟩ := hplain
    obtain ⟨after, hput, hfine, hfind⟩ := h.put hs haddress text
    have hserve : kind.serve s (.store address (.ofString text)) = (.ok (.stored address), after) := by
      rw [Kind.serve, hput]
    rw [hserve]
    refine ⟨rfl, hfine, ?_⟩
    intro other hother
    rw [lastStored_append_store, hfind hother, htells hother]
    split <;> rfl
  | read address =>
    refine ⟨htells.read_eq hplain, hs, ?_⟩
    intro other hother
    rw [lastStored_append_read]
    exact htells hother

theorem Kind.Lawful.replies_eq (h : kind.Lawful fine) {s : σ} {earlier : List Request} (hs : fine s)
    (htells : kind.Tells s earlier) {requests : List Request}
    (hplain : ∀ request ∈ requests, request.Plain) :
    kind.replies s requests = dues earlier requests := by
  induction requests generalizing s earlier with
  | nil => rfl
  | cons request rest ih =>
    rw [List.forall_mem_cons] at hplain
    obtain ⟨hreply, hfine, hafter⟩ := h.serve hs htells hplain.1
    rw [Kind.replies, dues, hreply, ih hfine hafter hplain.2]

end

/-! ## Ledgers -/

theorem Ledger.kind_lawful : Ledger.kind.Lawful (·.failure = none) where
  put := by
    intro ledger hledger address haddress text
    have hput : ledger.put address (.ofString text) = .ok _ := Ledger.put_eq_ok_iff.mpr ⟨hledger, rfl⟩
    refine ⟨_, congrArg (Except.mapError Refusal.failed) hput, hledger, ?_⟩
    intro other hother
    have hfind := ledger.get?_append address other (.ofString text)
    rw [haddress.beq_eq hother] at hfind
    refine (congrArg Except.ok hfind).trans ?_
    simp only [decide_eq_true_eq]
    split <;> rfl

/-! ## Sealed stores -/

section
variable {σ : Type} {keep : σ → Points → String → σ} {find? : σ → Points → Option String}

theorem Kind.put_sealing {address : Address} (h : address.Plain) (s : σ) (text : String) :
    (Kind.sealing keep find?).put s address (.ofString text) = .ok (keep s address.text text) := by
  simp only [Kind.sealing, Points.encode_ofString, h.written_eq, Except.mapError, bind, Except.bind, pure,
    Except.pure]

theorem Kind.find_sealing {address : Address} (h : address.Plain) (s : σ) :
    (Kind.sealing keep find?).find s address = .ok ((find? s address.text).map .ofString) := by
  simp only [Kind.sealing, h.written_eq, bind, Except.bind, pure, Except.pure]

/-- The store finds a payload again because no other address is written like its own. -/
theorem Kind.sealing_lawful (h : ∀ s written other text,
      find? (keep s written text) other = if other == written then some text else find? s other) :
    (Kind.sealing keep find?).Lawful fun _ => True where
  put := by
    intro s _ address haddress text
    refine ⟨_, put_sealing haddress s text, trivial, ?_⟩
    intro other hother
    rw [find_sealing hother, find_sealing hother, h]
    simp only [beq_iff_eq, Address.text_injective.eq_iff]
    split <;> rfl

end

theorem Vault.kind_lawful : Vault.kind.Lawful fun _ => True :=
  Kind.sealing_lawful Vault.unsealAs?_sealAs

def Cipher.safes {τ : Type} (cipher : Cipher τ) : Kind (Safe Points τ) :=
  .sealing cipher.keep cipher.find?

theorem Cipher.safes_lawful {τ : Type} (cipher : Cipher τ) : cipher.safes.Lawful fun _ => True :=
  Kind.sealing_lawful cipher.find?_keep

/-- A vault puts nothing in the place of what is kept under another address. -/
theorem Vault.get?_boxes_put {vault after : Vault Points} {address other : Address} {payload : Points}
    (hput : Vault.kind.put vault address payload = .ok after) (h : other ≠ address) :
    after.boxes.get? other.text = vault.boxes.get? other.text := by
  obtain ⟨text, htext, hrest⟩ := exists_of_bind_eq_ok hput
  obtain ⟨written, hwritten, hafter⟩ := exists_of_bind_eq_ok hrest
  cases hafter
  obtain rfl : address.text = written := by
    rw [Address.written] at hwritten
    split at hwritten <;> cases hwritten
    rfl
  exact Table.get?_insert_of_ne _ _ fun heq => h (Address.text_injective heq)

/-! ## Every store replies what is due -/

/-- A ledger, a vault and a store of any cipher reply what is due. No two addresses share an entry of a
vault, whether they are plain or not. -/
theorem stores_reply_dues (requests : List Request) (hplain : ∀ request ∈ requests, request.Plain) :
    Ledger.kind.replies .empty requests = dues [] requests ∧
    (∀ key, Vault.kind.replies (.empty key) requests = dues [] requests) ∧
    (∀ {τ : Type} (cipher : Cipher τ), cipher.safes.replies .empty requests = dues [] requests) ∧
    ∀ {vault after : Vault Points} {address other : Address} {payload : Points},
      Vault.kind.put vault address payload = .ok after → other ≠ address →
        other.text ≠ address.text ∧
          after.boxes.get? other.text = vault.boxes.get? other.text := by
  refine ⟨?_, ?_, ?_, ?_⟩
  · exact Ledger.kind_lawful.replies_eq rfl (fun _ => rfl) hplain
  · intro key
    refine Vault.kind_lawful.replies_eq trivial ?_ hplain
    exact fun h => Kind.find_sealing h _
  · intro τ cipher
    refine cipher.safes_lawful.replies_eq trivial ?_ hplain
    exact fun h => Kind.find_sealing h _
  · intro vault after address other payload hput h
    exact ⟨fun heq => h (Address.text_injective heq), Vault.get?_boxes_put hput h⟩

/-- Requests for bases that end like a version, and for a version below zero. -/
def suffixedRequests : List Request := [
  .store ⟨.ofString "b", .number 1⟩ (.ofString "p"),
  .store ⟨.ofString "b_v1", .number 1⟩ (.ofString "q"),
  .read ⟨.ofString "b", .number 1⟩,
  .read ⟨.ofString "b_v1", .number (-1)⟩]

def suffixedReplies : List (Except Refusal Reply) := [
  .ok (.stored ⟨.ofString "b", .number 1⟩),
  .ok (.stored ⟨.ofString "b_v1", .number 1⟩),
  .ok (.payload (.ofString "p")),
  .error (.notFound (.ofString "b_v1_v-1"))]

theorem stores_reply_dues_suffixed :
    (∀ request ∈ suffixedRequests, request.Plain) ∧
    Vault.kind.replies (.empty ⟨List.replicate 32 0, rfl⟩) suffixedRequests = suffixedReplies ∧
    (Cipher.ofKey ⟨List.replicate 32 0, rfl⟩).safes.replies .empty suffixedRequests =
      suffixedReplies := by
  have hplain (base : Points) {n : Int} (hn : (Version.number n).isShort = true) :
      Address.Plain ⟨base, .number n⟩ := ⟨hn, n, rfl⟩
  have hone : (Version.number 1).isShort = true := by decide +kernel
  have hbelow : (Version.number (-1)).isShort = true := by decide +kernel
  have hrequests : ∀ request ∈ suffixedRequests, request.Plain := by
    simp only [suffixedRequests, List.forall_mem_cons, List.not_mem_nil, Request.Plain]
    exact ⟨⟨hplain _ hone, _, rfl⟩, ⟨hplain _ hone, _, rfl⟩, hplain _ hone, hplain _ hbelow, nofun⟩
  have hdues : dues [] suffixedRequests = suffixedReplies := rfl
  obtain ⟨-, hvault, hsafe, -⟩ := stores_reply_dues suffixedRequests hrequests
  exact ⟨hrequests, (hvault _).trans hdues, (hsafe _).trans hdues⟩

/-- A truth value counts as an integer but is not written like one; and what a vault cannot encode, or
write down, it does not take. -/
theorem ledger_takes_more_than_vault :
    (Ledger.kind.replies .empty [.store ⟨.ofString "b", .number 1⟩ (.ofString "p"),
          .read ⟨.ofString "b", .flag true⟩] =
        [.ok (.stored ⟨.ofString "b", .number 1⟩), .ok (.payload (.ofString "p"))] ∧
      Vault.kind.replies (.empty ⟨List.replicate 32 0, rfl⟩)
          [.store ⟨.ofString "b", .number 1⟩ (.ofString "p"), .read ⟨.ofString "b", .flag true⟩] =
        [.ok (.stored ⟨.ofString "b", .number 1⟩), .error (.notFound (.ofString "b_vTrue"))]) ∧
    (Ledger.kind.replies .empty [.store ⟨.ofString "b", .number 1⟩ [.surrogate 0]] =
        [.ok (.stored ⟨.ofString "b", .number 1⟩)] ∧
      Vault.kind.replies (.empty ⟨List.replicate 32 0, rfl⟩)
          [.store ⟨.ofString "b", .number 1⟩ [.surrogate 0]] =
        [.error (.unencodable ⟨0, 0, 1⟩)]) ∧
    Ledger.kind.replies .empty
          [.store ⟨.ofString "b", .number ((10 ^ Text.digitLimit : Nat) : Int)⟩ (.ofString "p")] =
        [.ok (.stored ⟨.ofString "b", .number ((10 ^ Text.digitLimit : Nat) : Int)⟩)] ∧
      Vault.kind.replies (.empty ⟨List.replicate 32 0, rfl⟩)
          [.store ⟨.ofString "b", .number ((10 ^ Text.digitLimit : Nat) : Int)⟩ (.ofString "p")] =
        [.error .versionTooLong] := by
  have htakes (address : Address) (payload : Points) :
      Ledger.kind.replies .empty [.store address payload] = [.ok (.stored address)] := rfl
  refine ⟨⟨rfl, by decide +kernel⟩, ⟨htakes _ _, rfl⟩, htakes _ _, ?_⟩
  have hlong : (Version.number ((10 ^ Text.digitLimit : Nat) : Int)).isShort = false := by
    decide +kernel
  simp only [Kind.replies, Kind.serve, Vault.kind, Kind.sealing, Points.encode_ofString, Address.written,
    hlong, Except.mapError, bind, Except.bind, Bool.false_eq_true, if_false]

/-! ## The broker's stores -/

def Coordinate.address (coordinate : Coordinate) : Address :=
  ⟨.ofString coordinate.base, .number coordinate.version⟩

theorem Coordinate.address_injective : Function.Injective Coordinate.address := by
  intro coordinate other h
  obtain ⟨base, version⟩ := coordinate
  obtain ⟨base', version'⟩ := other
  obtain ⟨hbase, hversion⟩ := Address.mk.inj h
  obtain rfl : base = base' := Points.ofString_injective hbase
  obtain rfl : version = version' := Version.number.inj hversion
  rfl

/-- What a store of the broker reads is due after requests to store the same. -/
theorem Store.get?_eq_lastStored {store after : Store} {earlier : List Request}
    {writes : List (Coordinate × String)}
    (htells : ∀ coordinate : Coordinate,
      (store.get? coordinate).map .ofString = lastStored coordinate.address earlier)
    (hputs : writes.foldlM (fun store write => store.put write.1 write.2) store = .ok after)
    (coordinate : Coordinate) :
    (after.get? coordinate).map .ofString = lastStored coordinate.address
      (earlier ++ writes.map fun write => .store write.1.address (.ofString write.2)) := by
  induction writes generalizing store earlier with
  | nil =>
    cases hputs
    rw [List.map_nil, List.append_nil, htells]
  | cons write rest ih =>
    obtain ⟨mid, hput, hrest⟩ := exists_of_bind_eq_ok hputs
    have hmid : ∀ coordinate : Coordinate, (mid.get? coordinate).map .ofString =
        lastStored coordinate.address (earlier ++ [.store write.1.address (.ofString write.2)]) := by
      intro coordinate
      rw [lastStored_append_store, get?_put hput, ← htells]
      simp only [Coordinate.address_injective.eq_iff]
      split <;> rfl
    rw [List.map_cons, ih hmid hrest, List.append_assoc]
    rfl

end AuthBroker.Secret
