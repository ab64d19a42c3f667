import AuthBroker.Proofs.Secret.Store

/-! # Stores of any cipher

A vault stands for a store that keeps texts sealed by whatever cipher, of which nothing is known but that
decrypting undoes encrypting. Such a store reads what was kept last under a name (`find?_keepAll`), so
when it takes what a ledger or a vault keeps, it reads as that does (`find?_keepAll_entries`). -/

namespace AuthBroker.Secret

/-- A way to seal texts. What a sealed text looks like may depend on chance; decrypting undoes it
whatever the chance was. -/
structure Cipher (τ : Type) where
  encrypt : Nat → String → τ
  decrypt? : τ → Option String
  decrypt?_encrypt : ∀ chance text, decrypt? (encrypt chance text) = some text

/-- A store that keeps the sealed texts of some cipher, by what their coordinates are written as. -/
structure Safe (κ τ : Type) where
  chance : Nat
  boxes : Table κ τ

def Safe.empty {κ τ : Type} : Safe κ τ := ⟨0, []⟩

theorem Coordinate.lookup_full (writes : List (Coordinate × String)) (coordinate : Coordinate) :
    (writes.map fun write => (write.1.full, write.2)).lookup coordinate.full =
      writes.lookup coordinate := by
  induction writes with
  | nil => rfl
  | cons write rest ih =>
    have hbeq : (coordinate.full == write.1.full) = (coordinate == write.1) := by
      rw [Bool.eq_iff_iff, beq_iff_eq, beq_iff_eq, Coordinate.full_injective.eq_iff]
    rw [List.map_cons, List.lookup_cons, List.lookup_cons, hbeq, ih]

/-- A vault can open every box it has sealed itself. -/
theorem Vault.unsealAs?_eq_map {vault : Vault String} (hown : ∀ box ∈ vault.boxes, box.2.key = vault.key)
    (written : String) :
    vault.unsealAs? written = (vault.boxes.get? written).map (·.text) := by
  rw [Vault.unsealAs?]
  cases hbox : vault.boxes.get? written with
  | none => rfl
  | some box =>
    have hkey : box.key = vault.key := hown _ (Table.mem_of_get? hbox)
    rw [Option.bind_some, ← hkey, box.unseal?_self]
    rfl

namespace Cipher

variable {κ τ : Type} (cipher : Cipher τ)

/-- The cipher of a key, by which a vault keeps its texts. -/
def ofKey (key : Key) : Cipher Sealed where
  encrypt _ text := ⟨key, text⟩
  decrypt? box := box.unseal? key
  decrypt?_encrypt _ text := Sealed.unseal?_self ⟨key, text⟩

section
variable [BEq κ]

def keep (safe : Safe κ τ) (written : κ) (text : String) : Safe κ τ :=
  ⟨safe.chance + 1, safe.boxes.insert written (cipher.encrypt safe.chance text)⟩

def find? (safe : Safe κ τ) (written : κ) : Option String :=
  (safe.boxes.get? written).bind cipher.decrypt?

def keepAll (safe : Safe κ τ) (writes : List (κ × String)) : Safe κ τ :=
  writes.foldl (fun safe write => cipher.keep safe write.1 write.2) safe

variable [LawfulBEq κ]

theorem find?_keep (safe : Safe κ τ) (written other : κ) (text : String) :
    cipher.find? (cipher.keep safe written text) other =
      if other == written then some text else cipher.find? safe other := by
  simp only [find?, keep]
  by_cases h : other = written
  · rw [if_pos (beq_iff_eq.mpr h), h, Table.get?_insert_self, Option.bind_some, cipher.decrypt?_encrypt]
  · rw [if_neg (mt beq_iff_eq.mp h), Table.get?_insert_of_ne _ _ h]

theorem find?_keepAll (safe : Safe κ τ) (writes : List (κ × String)) (written : κ) :
    cipher.find? (cipher.keepAll safe writes) written =
      (Table.get? writes.reverse written).or (cipher.find? safe written) := by
  induction writes generalizing safe with
  | nil => rfl
  | cons write rest ih =>
    rw [keepAll, List.foldl_cons, ← keepAll, ih, find?_keep, List.reverse_cons, Table.get?_append,
      Option.or_assoc]
    congr 1
    by_cases h : written = write.1
    · rw [if_pos (beq_iff_eq.mpr h), h, Table.get?_cons_self]
      rfl
    · rw [if_neg (mt beq_iff_eq.mp h), Table.get?_cons_of_ne _ _ h]
      rfl

/-- Texts that come under names of their own are each kept under its name, in order. -/
theorem keys_keepAll (safe : Safe κ τ) (writes : List (κ × String))
    (hdistinct : (safe.boxes.keys ++ writes.map Prod.fst).Nodup) :
    (cipher.keepAll safe writes).boxes.keys = safe.boxes.keys ++ writes.map Prod.fst := by
  induction writes generalizing safe with
  | nil => exact (List.append_nil _).symm
  | cons write rest ih =>
    have hnew : write.1 ∉ safe.boxes.keys := fun hmem =>
      (List.nodup_append.mp hdistinct).2.2 _ hmem _ List.mem_cons_self rfl
    have hkeys : (cipher.keep safe write.1 write.2).boxes.keys = safe.boxes.keys ++ [write.1] := by
      rw [keep, Table.keys_insert, if_neg hnew]
    have hsplit : safe.boxes.keys ++ (write :: rest).map Prod.fst =
        (safe.boxes.keys ++ [write.1]) ++ rest.map Prod.fst := by simp
    rw [hsplit, ← hkeys] at hdistinct ⊢
    exact ih _ hdistinct

end

/-- A store of the cipher that takes what a sound store keeps reads as that store does. -/
theorem find?_keepAll_entries {store : Store} (h : store.Sound) (coordinate : Coordinate) :
    cipher.find? (cipher.keepAll .empty store.entries) coordinate.full = store.get? coordinate := by
  rw [find?_keepAll]
  refine Option.or_none.trans ?_
  cases store with
  | clear ledger =>
    rw [Store.entries, ← List.map_reverse]
    exact Coordinate.lookup_full ledger.writes.reverse coordinate
  | secured vault =>
    obtain ⟨hdistinct, hown⟩ := h
    have hentries : (Store.secured vault).entries = vault.boxes.mapValues fun _ box => box.text := rfl
    have hkeys : (Table.keys (Store.secured vault).entries).Nodup := by
      rw [hentries, Table.keys_mapValues]
      exact hdistinct
    rw [Table.get?_reverse hkeys, hentries, Table.get?_mapValues]
    exact (Vault.unsealAs?_eq_map hown coordinate.full).symm

end Cipher

end AuthBroker.Secret
