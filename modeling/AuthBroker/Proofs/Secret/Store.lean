import AuthBroker.Proofs.Agreement
import AuthBroker.Proofs.Secret.Coordinate
import AuthBroker.Secret.Store
import Mathlib.Data.List.Nodup

/-! # What a store keeps

Both stores keep one list of writes, the ledger as it is and the vault sealed by written coordinate.
As long as the written coordinates are distinct the list only grows (`Store.Keeps.put`), and each
text is read back under its coordinate (`Store.Keeps.get?`). -/

namespace AuthBroker.Secret.Store

/-- The store keeps these texts under these coordinates, in this order, and nothing else. -/
def Keeps (store : Store) (writes : List (Coordinate × String)) : Prop :=
  match store with
  | .clear ledger => ledger.writes = writes
  | .secured vault =>
    vault.boxes = writes.map fun write => (write.1.full, (⟨vault.key, write.2⟩ : Sealed))

theorem keeps_nil {store : Store} (h : store.entries = []) : store.Keeps [] := by
  cases store with
  | clear ledger => exact List.map_eq_nil_iff.mp h
  | secured vault => exact List.map_eq_nil_iff.mp h

section
variable {store after : Store} {writes : List (Coordinate × String)}

theorem Keeps.entries_eq (h : store.Keeps writes) :
    store.entries = writes.map fun write => (write.1.full, write.2) := by
  cases store with
  | clear ledger =>
    rw [← show ledger.writes = writes from h]
    rfl
  | secured vault =>
    have hboxes : vault.boxes = _ := h
    rw [entries, hboxes, List.map_map]
    rfl

theorem Keeps.put {coordinate : Coordinate} {text : String} (h : store.Keeps writes)
    (hnew : coordinate.full ∉ writes.map (·.1.full)) (hput : store.put coordinate text = .ok after) :
    after.Keeps (writes ++ [(coordinate, text)]) := by
  cases store with
  | clear ledger =>
    have hwrites : ledger.writes = writes := h
    obtain ⟨ledger', hledger, rfl⟩ := exists_of_map_eq_ok hput
    obtain ⟨-, rfl⟩ := Ledger.put_eq_ok_iff.mp hledger
    change ledger.writes ++ _ = _
    rw [hwrites]
  | secured vault =>
    have hboxes : vault.boxes = _ := h
    cases hput
    have hkeys : coordinate.full ∉ vault.boxes.keys := by
      rw [hboxes, Table.keys, List.map_map]
      exact hnew
    change Table.insert vault.boxes coordinate.full _ = _
    rw [Table.insert_of_notMem_keys hkeys, hboxes, List.map_append]
    rfl

theorem Keeps.get? {coordinate : Coordinate} {text : String} (h : store.Keeps writes)
    (hdistinct : (writes.map (·.1.full)).Nodup) (hmem : (coordinate, text) ∈ writes) :
    store.get? coordinate = some text := by
  cases store with
  | clear ledger =>
    have hwrites : ledger.writes = writes := h
    have hcoordinates : (Table.keys ledger.writes.reverse).Nodup := by
      rw [hwrites, Table.keys, List.map_reverse]
      have hkeys : (writes.map Prod.fst).Nodup := by
        refine List.Nodup.of_map Coordinate.full ?_
        rw [List.map_map]
        exact hdistinct
      exact List.nodup_reverse.mpr hkeys
    exact Table.get?_of_mem hcoordinates (List.mem_reverse.mpr (hwrites ▸ hmem))
  | secured vault =>
    have hboxes : vault.boxes = _ := h
    have hkeys : vault.boxes.keys.Nodup := by
      rw [hboxes, Table.keys, List.map_map]
      exact hdistinct
    have hbox : (coordinate.full, (⟨vault.key, text⟩ : Sealed)) ∈ vault.boxes := by
      rw [hboxes]
      exact List.mem_map.mpr ⟨(coordinate, text), hmem, rfl⟩
    change (vault.boxes.get? coordinate.full).bind _ = _
    rw [Table.get?_of_mem hkeys hbox]
    exact Sealed.unseal?_self ⟨vault.key, text⟩

theorem Keeps.setFailure (h : store.Keeps writes) (failure : Option Failure) :
    (store.setFailure failure).Keeps writes := by
  cases store with
  | clear ledger => exact h
  | secured vault => exact h

end

/-! ## Sound stores -/

/-- A ledger is not told to fail; a vault has sealed what it keeps itself, each text under a name of its
own. -/
def Sound : Store → Prop
  | .clear ledger => ledger.failure = none
  | .secured vault => vault.boxes.keys.Nodup ∧ ∀ box ∈ vault.boxes, box.2.key = vault.key

/-- What is put is read back, and nothing else changes: no two coordinates are written alike. -/
theorem get?_put {store after : Store} {coordinate : Coordinate} {text : String}
    (h : store.put coordinate text = .ok after) (other : Coordinate) :
    after.get? other = if other = coordinate then some text else store.get? other := by
  cases store with
  | clear ledger =>
    obtain ⟨ledger', hledger, rfl⟩ := exists_of_map_eq_ok h
    obtain ⟨-, rfl⟩ := Ledger.put_eq_ok_iff.mp hledger
    refine (ledger.get?_append coordinate other text).trans ?_
    simp only [beq_iff_eq]
    rfl
  | secured vault =>
    cases h
    refine (vault.unsealAs?_sealAs coordinate.full other.full text).trans ?_
    simp only [beq_iff_eq, Coordinate.full_injective.eq_iff]
    rfl

theorem get?_put_self {store after : Store} {coordinate : Coordinate} {text : String}
    (h : store.put coordinate text = .ok after) : after.get? coordinate = some text :=
  (get?_put h coordinate).trans (if_pos rfl)

theorem Sound.exists_put {store : Store} (h : store.Sound) (coordinate : Coordinate) (text : String) :
    ∃ after, store.put coordinate text = .ok after ∧ after.Sound ∧
      ∀ other, after.get? other = if other = coordinate then some text else store.get? other := by
  cases store with
  | clear ledger =>
    have hfailure : ledger.failure = none := h
    have hledger : ledger.put coordinate text = .ok _ := Ledger.put_eq_ok_iff.mpr ⟨hfailure, rfl⟩
    have hput : (clear ledger).put coordinate text = .ok (clear _) :=
      congrArg (Except.map clear) hledger
    exact ⟨_, hput, hfailure, get?_put hput⟩
  | secured vault =>
    have hput : (secured vault).put coordinate text = .ok (secured (vault.put coordinate text)) := rfl
    refine ⟨_, hput, ⟨?_, ?_⟩, get?_put hput⟩
    · exact Table.nodup_keys_insert h.1 _ _
    · intro box hbox
      rcases Table.mem_of_mem_insert hbox with hold | rfl
      · exact h.2 box hold
      · rfl

/-! ## Stores that fail, and what a write adds -/

def Fails (store : Store) (failure : Failure) : Prop :=
  ∀ coordinate text, store.put coordinate text = .error failure

/-- The store has no entry in whose place a text under the coordinate would go. A ledger keeps every
write. -/
def Free (store : Store) (coordinate : Coordinate) : Prop :=
  match store with
  | .clear _ => True
  | .secured vault => coordinate.full ∉ vault.boxes.keys

theorem fails_or_takes (store : Store) :
    (∃ failure, store.Fails failure) ∨
      ∀ coordinate text, ∃ after, store.put coordinate text = .ok after := by
  cases store with
  | clear ledger =>
    obtain ⟨writes, failure⟩ := ledger
    cases failure with
    | some failure => exact .inl ⟨failure, fun _ _ => rfl⟩
    | none => exact .inr fun _ _ => ⟨_, rfl⟩
  | secured vault => exact .inr fun _ _ => ⟨_, rfl⟩

theorem entries_put {store after : Store} {coordinate : Coordinate} {text : String}
    (hfree : store.Free coordinate) (hput : store.put coordinate text = .ok after) :
    after.entries = store.entries ++ [(coordinate.full, text)] := by
  cases store with
  | clear ledger =>
    obtain ⟨ledger', hledger, rfl⟩ := exists_of_map_eq_ok hput
    obtain ⟨-, rfl⟩ := Ledger.put_eq_ok_iff.mp hledger
    simp [entries]
  | secured vault =>
    cases hput
    simp [entries, Vault.put, Vault.sealAs, Table.insert_of_notMem_keys hfree]

end AuthBroker.Secret.Store
