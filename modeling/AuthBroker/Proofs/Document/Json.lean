import AuthBroker.Document.Json
import AuthBroker.Proofs.Json.Number

/-! # Printed documents

A JSON-like document that is nested no deeper than the levels allow is printed, and its text is a
well-formed JSON text that denotes the document; one that is nested deeper has no text
(`prints_of_jsonLike`). -/

namespace AuthBroker

theorem Table.insertAll_of_nodup {κ ν : Type} [BEq κ] [LawfulBEq κ] {table other : Table κ ν}
    (h : (table.keys ++ other.keys).Nodup) : table.insertAll other = table ++ other := by
  induction other generalizing table with
  | nil => exact (List.append_nil table).symm
  | cons entry rest ih =>
    have hkey : entry.1 ∉ table.keys := by
      intro hmem
      exact (List.nodup_append.mp h).2.2 _ hmem _ List.mem_cons_self rfl
    have hrest : Table.keys (table ++ [entry]) ++ Table.keys rest =
        table.keys ++ Table.keys (entry :: rest) := by
      simp [Table.keys]
    have hinsert : insertAll (table ++ [entry]) rest = _ := ih (by rwa [hrest])
    rw [List.append_assoc, List.singleton_append] at hinsert
    rw [← hinsert, ← insert_of_notMem_keys hkey entry.2]
    rfl

namespace Document

/-! ## JSON-like documents -/

/-- Tables with distinct keys, lists, texts, integers, finite numbers, truth values and nulls. -/
inductive JsonLike : Document → Prop
  | null : JsonLike .null
  | bool (value : Bool) : JsonLike (.bool value)
  | int (value : Int) : JsonLike (.int value)
  | float (negative : Bool) (rank : Fin Binary64.rankCount) :
      JsonLike (.float (.finite negative rank))
  | text (value : String) : JsonLike (.text value)
  | list {items : List Document} : (∀ item ∈ items, JsonLike item) → JsonLike (.list items)
  | object {entries : Fields} : entries.keys.Nodup → (∀ entry ∈ entries, JsonLike entry.2) →
      JsonLike (.object entries)

mutual

/-- The levels of a document, itself included. -/
def depth : Document → Nat
  | .null | .bool _ | .int _ | .float _ | .text _ | .foreign _ => 1
  | .list items | .tuple items | .set items => depthItems items + 1
  | .object entries => depthEntries entries + 1

def depthItems : List Document → Nat
  | [] => 0
  | item :: rest => max (depth item) (depthItems rest)

def depthEntries : List (String × Document) → Nat
  | [] => 0
  | (_, value) :: rest => max (depth value) (depthEntries rest)

end

/-! ## Texts -/

open Json (Spells SpellsAll Denotes Member commaSeparated)

theorem codeUnit?_hex : ∀ n < 0x20, Json.codeUnit? (Text.hex 4 n) = some n := by
  decide +kernel

theorem spells_jsonChar (c : Char) : Spells (jsonChar c) c := by
  by_cases hquote : c = '"'
  · subst hquote
    exact .escape (by decide)
  by_cases hback : c = '\\'
  · subst hback
    exact .escape (by decide)
  by_cases hb : c = '\x08'
  · subst hb
    exact .escape (by decide)
  by_cases ht : c = '\t'
  · subst ht
    exact .escape (by decide)
  by_cases hn : c = '\n'
  · subst hn
    exact .escape (by decide)
  by_cases hf : c = '\x0c'
  · subst hf
    exact .escape (by decide)
  by_cases hr : c = '\r'
  · subst hr
    exact .escape (by decide)
  by_cases hlow : c.toNat < 0x20
  · have hunit := Spells.unit (codeUnit?_hex c.toNat hlow)
    simpa [jsonChar, hquote, hback, hb, ht, hn, hf, hr, hlow] using hunit
  · have hplain : Json.isPlain c = true := by
      simp only [Json.isPlain, Bool.and_eq_true, decide_eq_true_eq, bne_iff_ne]
      exact ⟨⟨by omega, hquote⟩, hback⟩
    simpa [jsonChar, hquote, hback, hb, ht, hn, hf, hr, hlow] using Spells.plain hplain

theorem spellsAll_jsonChar (cs : List Char) : SpellsAll (cs.flatMap jsonChar) cs := by
  induction cs with
  | nil => exact .nil
  | cons c cs ih => exact .cons (spells_jsonChar c) ih

theorem denotes_jsonString (s : String) : Denotes (jsonString s) (.text s) := by
  have htext := Denotes.text (spellsAll_jsonChar s.toList)
  rwa [String.ofList_toList] at htext

/-! ## Nesting -/

/-- With so many levels, a document is printed as a text that denotes it, or it is too deep. -/
def Prints (levels : Nat) (d : Document) : Prop :=
  (d.depth ≤ levels → ∃ cs, d.json levels = .ok cs ∧ Denotes cs d) ∧
    (levels < d.depth → d.json levels = .error .tooDeep)

theorem one_le_depth (d : Document) : 1 ≤ d.depth := by
  cases d with
  | list items | tuple items | set items =>
    rw [depth]
    omega
  | object entries =>
    rw [depth]
    omega
  | _ => rw [depth]

theorem prints_zero (d : Document) : Prints 0 d := by
  constructor
  · intro hle
    have := d.one_le_depth
    omega
  · intro _
    rw [json]

theorem prints_scalar {levels : Nat} {d : Document} {cs : List Char} (hdepth : d.depth = 1)
    (hjson : ∀ n, d.json (n + 1) = .ok cs) (h : Denotes cs d) : Prints levels d := by
  cases levels with
  | zero => exact prints_zero d
  | succ n => exact ⟨fun _ => ⟨cs, hjson n, h⟩, fun hlt => by omega⟩

/-! ## Elements -/

section
variable {α β : Type} {f : α → Except Unprintable β} {items : List α}

theorem exists_mapM_eq_ok {P : β → α → Prop} (h : ∀ item ∈ items, ∃ b, f item = .ok b ∧ P b item) :
    ∃ parts : List (β × α), parts.map (·.2) = items ∧ (∀ part ∈ parts, P part.1 part.2) ∧
      items.mapM f = .ok (parts.map (·.1)) := by
  induction items with
  | nil => exact ⟨[], rfl, by simp, rfl⟩
  | cons item rest ih =>
    obtain ⟨b, hb, hP⟩ := h item List.mem_cons_self
    obtain ⟨parts, hitems, hparts, hmap⟩ := ih fun other hother =>
      h other (List.mem_cons_of_mem _ hother)
    refine ⟨(b, item) :: parts, by rw [List.map_cons, hitems], ?_, ?_⟩
    · exact List.forall_mem_cons.mpr ⟨hP, hparts⟩
    · rw [List.mapM_cons, hb, hmap]
      rfl

theorem exists_of_mapM_eq_ok {results : List β} (h : items.mapM f = .ok results) :
    ∀ item ∈ items, ∃ b, f item = .ok b := by
  induction items generalizing results with
  | nil => exact List.forall_mem_nil _
  | cons item rest ih =>
    rw [List.mapM_cons] at h
    cases hitem : f item with
    | error reason =>
      rw [hitem] at h
      cases h
    | ok b =>
      cases hrest : rest.mapM f with
      | error reason =>
        rw [hitem, hrest] at h
        cases h
      | ok others => exact List.forall_mem_cons.mpr ⟨⟨b, hitem⟩, ih hrest⟩

theorem exists_of_mapM_eq_error {reason : Unprintable} (h : items.mapM f = .error reason) :
    ∃ item ∈ items, f item = .error reason := by
  induction items with
  | nil => cases h
  | cons item rest ih =>
    rw [List.mapM_cons] at h
    cases hitem : f item with
    | error other =>
      rw [hitem] at h
      cases h
      exact ⟨item, List.mem_cons_self, hitem⟩
    | ok b =>
      cases hrest : rest.mapM f with
      | error other =>
        rw [hitem, hrest] at h
        cases h
        obtain ⟨failing, hmem, hfails⟩ := ih hrest
        exact ⟨failing, List.mem_cons_of_mem _ hmem, hfails⟩
      | ok others =>
        rw [hitem, hrest] at h
        cases h

/-- When elements fail in one way only, the whole fails in it as soon as one of them does. -/
theorem mapM_eq_error {reason : Unprintable}
    (h : ∀ item ∈ items, (∃ b, f item = .ok b) ∨ f item = .error reason)
    (hfails : ∃ item ∈ items, f item = .error reason) : items.mapM f = .error reason := by
  induction items with
  | nil => simp at hfails
  | cons item rest ih =>
    rw [List.mapM_cons]
    rcases h item List.mem_cons_self with ⟨b, hb⟩ | hitem
    · have hrest : ∃ other ∈ rest, f other = .error reason := by
        obtain ⟨other, hmem, hother⟩ := hfails
        rcases List.mem_cons.mp hmem with rfl | hmem
        · rw [hb] at hother
          cases hother
        · exact ⟨other, hmem, hother⟩
      rw [hb, ih (fun other hother => h other (List.mem_cons_of_mem _ hother)) hrest]
      rfl
    · rw [hitem]
      rfl

/-- Elements printed with commas in between, and something at the end. -/
theorem joined_eq_mapM {written : β → List Char}
    {print : List α → Except Unprintable (List Char)} {close : List Char}
    (hnil : print [] = .ok close)
    (hone : ∀ item, print [item] = (f item).map fun b => written b ++ close)
    (hmore : ∀ item next rest, print (item :: next :: rest) = do
      let first ← f item
      let others ← print (next :: rest)
      return written first ++ ',' :: others) (items : List α) :
    print items = (items.mapM f).map fun bs => commaSeparated (bs.map written) ++ close := by
  induction items with
  | nil => exact hnil
  | cons item rest ih =>
    cases rest with
    | nil =>
      rw [hone, List.mapM_cons, List.mapM_nil]
      cases f item with
      | error reason => rfl
      | ok b =>
        have hjoin : written b ++ close = commaSeparated ([b].map written) ++ close := by
          rw [List.map_singleton, Json.commaSeparated_singleton]
        exact congrArg Except.ok hjoin
    | cons next rest =>
      rw [hmore, ih, List.mapM_cons (a := item), List.mapM_cons (a := next)]
      cases f item with
      | error reason => rfl
      | ok b =>
        cases f next with
        | error reason => rfl
        | ok c =>
          cases rest.mapM f with
          | error reason => rfl
          | ok more =>
            have hjoin : written b ++ ',' :: (commaSeparated ((c :: more).map written) ++ close) =
                commaSeparated ((b :: c :: more).map written) ++ close := by
              simp only [List.map_cons, Json.commaSeparated_cons_cons, List.append_assoc,
                List.cons_append]
            exact congrArg Except.ok hjoin

end

theorem jsonItems_eq_mapM (levels : Nat) (items : List Document) :
    jsonItems levels items =
      (items.mapM (json levels)).map fun texts => commaSeparated (texts.map id) ++ [']'] := by
  apply joined_eq_mapM
  · rw [jsonItems]
  · intro item
    rw [jsonItems]
    cases json levels item <;> rfl
  · intro item next rest
    rw [jsonItems]
    rfl

/-- A member of a printed table. -/
def member (levels : Nat) (entry : String × Document) : Except Unprintable Member :=
  (json levels entry.2).map fun text => ⟨jsonString entry.1, entry.1, text, entry.2⟩

theorem jsonEntries_eq_mapM (levels : Nat) (entries : Fields) :
    jsonEntries levels entries =
      (entries.mapM (member levels)).map fun members =>
        commaSeparated (members.map Member.written) ++ ['\x7d'] := by
  apply joined_eq_mapM
  · rw [jsonEntries]
  · intro entry
    rw [jsonEntries, member]
    cases json levels entry.2 <;> rfl
  · intro entry next rest
    rw [jsonEntries, member]
    cases json levels entry.2 <;> rfl

/-! ## Lists and tables -/

theorem depthItems_le_iff {levels : Nat} {items : List Document} :
    depthItems items ≤ levels ↔ ∀ item ∈ items, item.depth ≤ levels := by
  induction items with
  | nil => simp [depthItems]
  | cons item rest ih => rw [depthItems, max_le_iff, ih, List.forall_mem_cons]

theorem depthEntries_le_iff {levels : Nat} {entries : Fields} :
    depthEntries entries ≤ levels ↔ ∀ entry ∈ entries, entry.2.depth ≤ levels := by
  induction entries with
  | nil => simp [depthEntries]
  | cons entry rest ih => rw [depthEntries, max_le_iff, ih, List.forall_mem_cons]

theorem Prints.ok_or_error {levels : Nat} {d : Document} (h : Prints levels d) :
    (∃ cs, d.json levels = .ok cs) ∨ d.json levels = .error .tooDeep := by
  by_cases hdepth : d.depth ≤ levels
  · obtain ⟨cs, hcs, -⟩ := h.1 hdepth
    exact .inl ⟨cs, hcs⟩
  · exact .inr (h.2 (by omega))

theorem prints_list {levels : Nat} {items : List Document}
    (h : ∀ item ∈ items, ∀ levels, Prints levels item) : Prints levels (.list items) := by
  cases levels with
  | zero => exact prints_zero _
  | succ n =>
    rw [Prints, json, jsonItems_eq_mapM, depth, Nat.add_le_add_iff_right, Nat.add_lt_add_iff_right,
      depthItems_le_iff, ← not_le, depthItems_le_iff]
    constructor
    · intro hdepth
      obtain ⟨parts, hitems, hparts, hmap⟩ :=
        exists_mapM_eq_ok fun item hitem => (h item hitem n).1 (hdepth item hitem)
      refine ⟨_, by rw [hmap]; rfl, ?_⟩
      rw [← hitems]
      simp only [List.map_id]
      cases parts with
      | nil => exact Denotes.emptyList (show [].all Json.isBlank = true from rfl)
      | cons part parts => exact .list (by simp) hparts
    · intro hdeep
      simp only [not_forall, not_le] at hdeep
      obtain ⟨item, hitem, hlt⟩ := hdeep
      rw [mapM_eq_error (fun item hitem => (h item hitem n).ok_or_error)
        ⟨item, hitem, (h item hitem n).2 hlt⟩]
      rfl

theorem prints_object {levels : Nat} {entries : Fields} (hkeys : entries.keys.Nodup)
    (h : ∀ entry ∈ entries, ∀ levels, Prints levels entry.2) : Prints levels (.object entries) := by
  cases levels with
  | zero => exact prints_zero _
  | succ n =>
    rw [Prints, json, jsonEntries_eq_mapM, depth, Nat.add_le_add_iff_right,
      Nat.add_lt_add_iff_right, depthEntries_le_iff, ← not_le, depthEntries_le_iff]
    constructor
    · intro hdepth
      have hmember : ∀ entry ∈ entries, ∃ written, member n entry = .ok written ∧
          (written.entry = entry ∧ Denotes written.name (.text written.key) ∧
            Denotes written.text written.value) := by
        intro entry hentry
        obtain ⟨cs, hcs, hdenotes⟩ := (h entry hentry n).1 (hdepth entry hentry)
        refine ⟨⟨jsonString entry.1, entry.1, cs, entry.2⟩, ?_, rfl, denotes_jsonString _, hdenotes⟩
        rw [member, hcs]
        rfl
      obtain ⟨parts, hentries, hparts, hmap⟩ := exists_mapM_eq_ok hmember
      have hdenotes : ∀ written ∈ parts.map (·.1), Denotes written.name (.text written.key) ∧
          Denotes written.text written.value :=
        List.forall_mem_map.mpr fun part hpart => (hparts part hpart).2
      have hsame : (parts.map (·.1)).map Member.entry = entries := by
        rw [List.map_map, ← hentries]
        exact List.map_congr_left fun part hpart => (hparts part hpart).1
      have hvalue : Table.insertAll [] ((parts.map (·.1)).map Member.entry) = entries := by
        rw [hsame, Table.insertAll_of_nodup (by simpa [Table.keys] using hkeys), List.nil_append]
      refine ⟨_, by rw [hmap]; rfl, ?_⟩
      rw [← hvalue]
      generalize parts.map (·.1) = members at hdenotes
      cases members with
      | nil => exact Denotes.emptyObject (show [].all Json.isBlank = true from rfl)
      | cons first members =>
        exact Denotes.object (by simp) (fun written hmem => (hdenotes written hmem).1)
          (fun written hmem => (hdenotes written hmem).2)
    · intro hdeep
      simp only [not_forall, not_le] at hdeep
      obtain ⟨entry, hentry, hlt⟩ := hdeep
      have hmember : ∀ entry ∈ entries, (∃ written, member n entry = .ok written) ∨
          member n entry = .error .tooDeep := by
        intro entry hentry
        rcases (h entry hentry n).ok_or_error with ⟨cs, hcs⟩ | herror
        · exact .inl ⟨_, by rw [member, hcs]; rfl⟩
        · exact .inr (by rw [member, herror]; rfl)
      have hfails : member n entry = .error .tooDeep := by
        rw [member, (h entry hentry n).2 hlt]
        rfl
      rw [mapM_eq_error hmember ⟨entry, hentry, hfails⟩]
      rfl

theorem prints_of_jsonLike {d : Document} (h : JsonLike d) : ∀ levels, Prints levels d := by
  induction h with
  | null => exact fun levels => prints_scalar (by rw [depth]) (fun n => by rw [json]) .null
  | bool value =>
    intro levels
    cases value with
    | true => exact prints_scalar (by rw [depth]) (fun n => by rw [json]) .yes
    | false => exact prints_scalar (by rw [depth]) (fun n => by rw [json]) .no
  | int value =>
    exact fun levels => prints_scalar (by rw [depth]) (fun n => by rw [json])
      (.number (Json.isNumber_intText value))
  | float negative rank =>
    exact fun levels => prints_scalar (by rw [depth]) (fun n => by rw [json, jsonNumber])
      (.number (Json.isNumber_finiteText storedLayout negative rank))
  | text value =>
    exact fun levels => prints_scalar (by rw [depth]) (fun n => by rw [json])
      (denotes_jsonString value)
  | list _ ih => exact fun levels => prints_list ih
  | object hkeys _ ih => exact fun levels => prints_object hkeys ih

end Document

end AuthBroker
