import AuthBroker.Document.Basic

/-! # Proper documents

A document is proper when every table in it has distinct keys, as every mapping does. -/

namespace AuthBroker.Document

/-- The keys of every table in the document are distinct. -/
inductive Proper : Document → Prop
  | null : Proper .null
  | bool (value : Bool) : Proper (.bool value)
  | int (value : Int) : Proper (.int value)
  | float (value : Binary64) : Proper (.float value)
  | text (value : String) : Proper (.text value)
  | foreign (description : String) : Proper (.foreign description)
  | list {items : List Document} : (∀ item ∈ items, Proper item) → Proper (.list items)
  | tuple {items : List Document} : (∀ item ∈ items, Proper item) → Proper (.tuple items)
  | set {items : List Document} : (∀ item ∈ items, Proper item) → Proper (.set items)
  | object {entries : Fields} : entries.keys.Nodup → (∀ entry ∈ entries, Proper entry.2) →
      Proper (.object entries)

theorem Proper.nodup_keys {entries : Fields} (h : Proper (.object entries)) :
    entries.keys.Nodup := by
  cases h with
  | object hkeys _ => exact hkeys

theorem Proper.of_get? {entries : Fields} (h : Proper (.object entries)) {key : String}
    {value : Document} (hget : entries.get? key = some value) : Proper value := by
  cases h with
  | object _ hvalues => exact hvalues _ (Table.mem_of_get? hget)

end AuthBroker.Document
