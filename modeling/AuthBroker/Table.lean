/-!
Ordered tables: finite maps that remember the order in which their keys first arrived.

A table is the list of its entries. Inserting at a key that is present keeps its place,
inserting at a new one appends it. The lemmas say what each operation does to look-up and to the keys.
-/

namespace AuthBroker

/-- A finite map as the list of its entries in order of arrival. -/
abbrev Table (κ ν : Type) := List (κ × ν)

namespace Table

variable {κ ν : Type}

def keys (table : Table κ ν) : List κ :=
  table.map Prod.fst

def values (table : Table κ ν) : List ν :=
  table.map Prod.snd

/-- Maps every value, with a look at its key. -/
def mapValues {μ : Type} (f : κ → ν → μ) (table : Table κ ν) : Table κ μ :=
  table.map fun entry => (entry.1, f entry.1 entry.2)

theorem keys_cons (entry : κ × ν) (rest : Table κ ν) :
    keys (entry :: rest) = entry.1 :: keys rest := rfl

theorem keys_mapValues {μ : Type} (f : κ → ν → μ) (table : Table κ ν) :
    (table.mapValues f).keys = table.keys := by
  rw [keys, mapValues, List.map_map]
  rfl

variable [BEq κ]

def get? (table : Table κ ν) (key : κ) : Option ν :=
  table.lookup key

def contains (table : Table κ ν) (key : κ) : Bool :=
  (table.get? key).isSome

/-- Gives a key a value: in place when it is present, at the end when it is new. -/
def insert : Table κ ν → κ → ν → Table κ ν
  | [], key, value => [(key, value)]
  | (k, v) :: rest, key, value =>
    if key == k then (k, value) :: rest else (k, v) :: insert rest key value

/-- Inserts every entry of `other`, in its order. -/
def insertAll (table other : Table κ ν) : Table κ ν :=
  other.foldl (fun acc entry => acc.insert entry.1 entry.2) table

variable [LawfulBEq κ]

theorem get?_insert_self (table : Table κ ν) (key : κ) (value : ν) :
    (table.insert key value).get? key = some value := by
  induction table with
  | nil => simp [insert, get?]
  | cons entry rest ih =>
    obtain ⟨k, v⟩ := entry
    simp only [get?] at ih
    by_cases h : key = k
    · simp [insert, get?, h]
    · have hk : (key == k) = false := beq_eq_false_iff_ne.mpr h
      simp [insert, get?, List.lookup_cons, hk, ih]

theorem get?_insert_of_ne (table : Table κ ν) {key other : κ} (value : ν) (h : other ≠ key) :
    (table.insert key value).get? other = table.get? other := by
  have ho : (other == key) = false := beq_eq_false_iff_ne.mpr h
  induction table with
  | nil => simp [insert, get?, List.lookup_cons, ho]
  | cons entry rest ih =>
    obtain ⟨k, v⟩ := entry
    simp only [get?] at ih
    by_cases hk : key = k
    · subst hk
      simp [insert, get?, List.lookup_cons, ho]
    · have hk' : (key == k) = false := beq_eq_false_iff_ne.mpr hk
      simp [insert, get?, List.lookup_cons, hk', ih]

theorem keys_insert (table : Table κ ν) (key : κ) (value : ν) :
    (table.insert key value).keys = if key ∈ table.keys then table.keys else table.keys ++ [key] := by
  induction table with
  | nil => simp [insert, keys]
  | cons entry rest ih =>
    obtain ⟨k, v⟩ := entry
    by_cases h : key = k
    · simp [insert, keys_cons, h]
    · have hk : (key == k) = false := beq_eq_false_iff_ne.mpr h
      by_cases hm : key ∈ keys rest
      · rw [if_pos hm] at ih
        simp [insert, keys_cons, hk, ih, hm]
      · rw [if_neg hm] at ih
        simp [insert, keys_cons, hk, ih, hm, h]

theorem nodup_keys_insert {table : Table κ ν} (h : table.keys.Nodup) (key : κ) (value : ν) :
    (table.insert key value).keys.Nodup := by
  rw [keys_insert]
  by_cases hkey : key ∈ table.keys
  · rw [if_pos hkey]
    exact h
  · rw [if_neg hkey]
    refine List.nodup_append.mpr ⟨h, by simp, ?_⟩
    intro k hk other hother heq
    rw [heq, List.mem_singleton.mp hother] at hk
    exact hkey hk

theorem contains_iff_mem_keys (table : Table κ ν) (key : κ) :
    table.contains key = true ↔ key ∈ table.keys := by
  induction table with
  | nil => simp [contains, get?, keys]
  | cons entry rest ih =>
    obtain ⟨k, v⟩ := entry
    simp only [contains, get?] at ih
    by_cases h : key = k
    · simp [contains, get?, keys_cons, h]
    · have hk : (key == k) = false := beq_eq_false_iff_ne.mpr h
      simp [contains, get?, keys_cons, List.lookup_cons, hk, ih, h]

theorem get?_append (table other : Table κ ν) (key : κ) :
    Table.get? (table ++ other) key = (table.get? key).or (other.get? key) := by
  induction table with
  | nil => simp [get?]
  | cons entry rest ih =>
    obtain ⟨k, v⟩ := entry
    simp only [get?] at ih
    by_cases h : key = k
    · simp [get?, h]
    · have hk : (key == k) = false := beq_eq_false_iff_ne.mpr h
      simp [get?, List.lookup_cons, hk, ih]

theorem get?_cons_self (key : κ) (value : ν) (rest : Table κ ν) :
    Table.get? ((key, value) :: rest) key = some value := by
  simp [get?]

theorem get?_cons_of_ne {key other : κ} (value : ν) (rest : Table κ ν) (h : other ≠ key) :
    Table.get? ((key, value) :: rest) other = Table.get? rest other := by
  have ho : (other == key) = false := beq_eq_false_iff_ne.mpr h
  simp [get?, List.lookup_cons, ho]

theorem mem_of_get? {table : Table κ ν} {key : κ} {value : ν} (h : table.get? key = some value) :
    (key, value) ∈ table := by
  induction table with
  | nil => cases h
  | cons entry rest ih =>
    obtain ⟨k, v⟩ := entry
    by_cases hk : key = k
    · subst hk
      rw [get?_cons_self] at h
      cases h
      exact List.mem_cons_self
    · rw [get?_cons_of_ne v rest hk] at h
      exact List.mem_cons_of_mem _ (ih h)

theorem mem_keys_of_get? {table : Table κ ν} {key : κ} {value : ν}
    (h : table.get? key = some value) : key ∈ table.keys :=
  List.mem_map.mpr ⟨_, mem_of_get? h, rfl⟩

theorem get?_of_mem {table : Table κ ν} (hkeys : table.keys.Nodup) {key : κ} {value : ν}
    (h : (key, value) ∈ table) : table.get? key = some value := by
  induction table with
  | nil => cases h
  | cons entry rest ih =>
    obtain ⟨k, v⟩ := entry
    rw [keys_cons, List.nodup_cons] at hkeys
    rcases List.mem_cons.mp h with heq | hrest
    · cases heq
      exact get?_cons_self key value rest
    · have hne : key ≠ k := by
        rintro rfl
        exact hkeys.1 (List.mem_map.mpr ⟨(key, value), hrest, rfl⟩)
      rw [get?_cons_of_ne v rest hne]
      exact ih hkeys.2 hrest

theorem insert_of_notMem_keys {table : Table κ ν} {key : κ} (h : key ∉ table.keys) (value : ν) :
    table.insert key value = table ++ [(key, value)] := by
  induction table with
  | nil => rfl
  | cons entry rest ih =>
    obtain ⟨k, v⟩ := entry
    rw [keys_cons, List.mem_cons, not_or] at h
    have hk : (key == k) = false := beq_eq_false_iff_ne.mpr h.1
    rw [insert, hk, ih h.2]
    rfl

/-- An entry whose key is present is replaced where it stands. -/
theorem exists_insert_eq {table : Table κ ν} {key : κ} (h : key ∈ table.keys) :
    ∃ before held after, table = before ++ (key, held) :: after ∧
      ∀ value, table.insert key value = before ++ (key, value) :: after := by
  induction table with
  | nil => cases h
  | cons entry rest ih =>
    obtain ⟨k, v⟩ := entry
    by_cases hk : key = k
    · subst hk
      exact ⟨[], v, rest, rfl, fun value => by simp [insert]⟩
    · have hk' : (key == k) = false := beq_eq_false_iff_ne.mpr hk
      have hrest : key ∈ keys rest := by simpa [keys_cons, hk] using h
      obtain ⟨before, held, after, heq, hinsert⟩ := ih hrest
      refine ⟨(k, v) :: before, held, after, by rw [heq]; rfl, fun value => ?_⟩
      rw [insert, hk', hinsert]
      rfl

/-- Entries under other keys keep their places. -/
theorem getElem?_insert_of_ne (table : Table κ ν) {key other : κ} (value held : ν) (h : other ≠ key)
    (place : Nat) :
    (table.insert key value)[place]? = some (other, held) ↔ table[place]? = some (other, held) := by
  induction table generalizing place with
  | nil =>
    cases place with
    | zero => simp [insert, h.symm]
    | succ place => simp [insert]
  | cons entry rest ih =>
    obtain ⟨k, v⟩ := entry
    by_cases hk : key = k
    · subst hk
      cases place with
      | zero => simp [insert, h.symm]
      | succ place => simp [insert]
    · have hk' : (key == k) = false := beq_eq_false_iff_ne.mpr hk
      cases place with
      | zero => simp [insert, hk']
      | succ place => simpa [insert, hk'] using ih place

theorem length_insert (table : Table κ ν) (key : κ) (value : ν) :
    (table.insert key value).length =
      if key ∈ table.keys then table.length else table.length + 1 := by
  have hlength : ∀ t : Table κ ν, t.length = t.keys.length := fun t => List.length_map _ |>.symm
  rw [hlength, keys_insert]
  by_cases hkey : key ∈ table.keys
  · rw [if_pos hkey, if_pos hkey, ← hlength]
  · rw [if_neg hkey, if_neg hkey, List.length_append, ← hlength]
    rfl

theorem mem_of_mem_insert {table : Table κ ν} {key : κ} {value : ν} {entry : κ × ν}
    (h : entry ∈ table.insert key value) : entry ∈ table ∨ entry = (key, value) := by
  by_cases hkey : key ∈ table.keys
  · obtain ⟨before, held, after, heq, hinsert⟩ := exists_insert_eq hkey
    rw [hinsert, List.mem_append, List.mem_cons] at h
    rw [heq, List.mem_append, List.mem_cons]
    rcases h with hbefore | rfl | hafter
    · exact .inl (.inl hbefore)
    · exact .inr rfl
    · exact .inl (.inr (.inr hafter))
  · rw [insert_of_notMem_keys hkey, List.mem_append, List.mem_singleton] at h
    exact h

theorem get?_eq_none_iff (table : Table κ ν) (key : κ) :
    table.get? key = none ↔ key ∉ table.keys := by
  rw [← contains_iff_mem_keys, contains]
  cases table.get? key <;> simp

/-- What becomes of an entry under another key does not matter to a look-up. -/
theorem get?_reverse {table : Table κ ν} (h : table.keys.Nodup) (key : κ) :
    Table.get? table.reverse key = table.get? key := by
  have hkeys : Table.keys table.reverse = table.keys.reverse := List.map_reverse
  cases hget : table.get? key with
  | none =>
    rw [get?_eq_none_iff] at hget ⊢
    rw [hkeys, List.mem_reverse]
    exact hget
  | some value =>
    refine get?_of_mem ?_ (List.mem_reverse.mpr (mem_of_get? hget))
    rw [hkeys]
    exact List.pairwise_reverse.mpr (h.imp Ne.symm)

theorem get?_filterMap_cons_of_ne {μ : Type} (f : κ → ν → Option μ) {k key : κ} (v : ν)
    (rest : Table κ ν) (h : key ≠ k) :
    Table.get? (((k, v) :: rest).filterMap fun entry => (f entry.1 entry.2).map (entry.1, ·)) key =
      Table.get? (rest.filterMap fun entry => (f entry.1 entry.2).map (entry.1, ·)) key := by
  cases hf : f k v with
  | some m => rw [List.filterMap_cons_some (by rw [hf]; rfl), get?_cons_of_ne m _ h]
  | none => rw [List.filterMap_cons_none (by rw [hf]; rfl)]

/-- Where the keys are distinct, look-up in a table whose values were mapped and partly dropped is
look-up in the table itself, and then the mapping. -/
theorem get?_filterMap {μ : Type} (f : κ → ν → Option μ) (table : Table κ ν)
    (hkeys : table.keys.Nodup) (key : κ) :
    Table.get? (table.filterMap fun entry => (f entry.1 entry.2).map (entry.1, ·)) key =
      (table.get? key).bind (f key) := by
  induction table with
  | nil => rfl
  | cons entry rest ih =>
    obtain ⟨k, v⟩ := entry
    rw [keys_cons, List.nodup_cons] at hkeys
    have ih := ih hkeys.2
    by_cases h : key = k
    · subst h
      rw [get?_cons_self, Option.bind_some]
      cases hf : f key v with
      | some m => rw [List.filterMap_cons_some (by rw [hf]; rfl), get?_cons_self]
      | none =>
        have hrest := (get?_eq_none_iff rest key).mpr hkeys.1
        rw [List.filterMap_cons_none (by rw [hf]; rfl), ih, hrest]
        rfl
    · rw [get?_cons_of_ne v rest h, get?_filterMap_cons_of_ne f v rest h, ih]

/-- Mappings that agree under a key give look-ups that agree under it. -/
theorem get?_filterMap_congr {μ : Type} (f g : κ → ν → Option μ) {table : Table κ ν} {key : κ}
    (h : ∀ v, (key, v) ∈ table → f key v = g key v) :
    Table.get? (table.filterMap fun entry => (f entry.1 entry.2).map (entry.1, ·)) key =
      Table.get? (table.filterMap fun entry => (g entry.1 entry.2).map (entry.1, ·)) key := by
  induction table with
  | nil => rfl
  | cons entry rest ih =>
    obtain ⟨k, v⟩ := entry
    have ih := ih fun w hw => h w (List.mem_cons_of_mem _ hw)
    by_cases hk : key = k
    · subst hk
      have hfg := h v List.mem_cons_self
      cases hf : f key v with
      | some m =>
        rw [List.filterMap_cons_some (by rw [hf]; rfl),
          List.filterMap_cons_some (by rw [← hfg, hf]; rfl), get?_cons_self, get?_cons_self]
      | none =>
        rw [List.filterMap_cons_none (by rw [hf]; rfl),
          List.filterMap_cons_none (by rw [← hfg, hf]; rfl), ih]
    · rw [get?_filterMap_cons_of_ne f v rest hk, get?_filterMap_cons_of_ne g v rest hk, ih]

/-! ## Mapped values -/

section
variable {μ : Type} (f : κ → ν → μ)

theorem get?_mapValues (table : Table κ ν) (key : κ) :
    (table.mapValues f).get? key = (table.get? key).map (f key) := by
  induction table with
  | nil => rfl
  | cons entry rest ih =>
    obtain ⟨k, v⟩ := entry
    by_cases h : key = k
    · subst h
      rw [get?_cons_self, mapValues, List.map_cons, get?_cons_self]
      rfl
    · rw [get?_cons_of_ne v rest h, ← ih, mapValues, List.map_cons, get?_cons_of_ne _ _ h]
      rfl

theorem contains_mapValues (table : Table κ ν) (key : κ) :
    (table.mapValues f).contains key = table.contains key := by
  rw [contains, get?_mapValues, Option.isSome_map, contains]

theorem mapValues_insert (table : Table κ ν) (key : κ) (value : ν) :
    (table.insert key value).mapValues f = (table.mapValues f).insert key (f key value) := by
  induction table with
  | nil => rfl
  | cons entry rest ih =>
    obtain ⟨k, v⟩ := entry
    by_cases h : key = k
    · subst h
      simp [insert, mapValues]
    · have hk : (key == k) = false := beq_eq_false_iff_ne.mpr h
      simp only [mapValues] at ih
      simp [insert, mapValues, hk, ih]

theorem mapValues_insertAll (table other : Table κ ν) :
    (table.insertAll other).mapValues f = (table.mapValues f).insertAll (other.mapValues f) := by
  induction other generalizing table with
  | nil => rfl
  | cons entry rest ih =>
    have hrest := ih (table.insert entry.1 entry.2)
    rw [mapValues_insert] at hrest
    exact hrest

end

end Table

end AuthBroker
