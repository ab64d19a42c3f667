import AuthBroker.Path.Query
import AuthBroker.Proofs.Document.Proper
import Mathlib.Data.List.Nodup

/-! # Where the values of a query lie

A location is the way from the top of a document down to a value in it: keys of tables and positions
of lists and tuples. The items of a set have no positions. A path addresses the locations whose every
place its steps take; none takes a position of a tuple. Going level by level, a query finds what going
down one branch after the other finds (`query_eq_visits`): the values at the addressed locations, each
once and in the order of the document (`query_addressed`). -/

namespace AuthBroker

/-- One step down a document: a key of a table, or a position of a list or tuple. -/
inductive Place where
  | key (name : String)
  | item (position : Nat)
  deriving DecidableEq, Repr

/-- The way from the top of a document down to a value. -/
abbrev Location := List Place

namespace Document

/-- The value one step down. -/
def child? : Document → Place → Option Document
  | .object entries, .key name => Table.get? entries name
  | .list items, .item position | .tuple items, .item position => items[position]?
  | _, _ => none

/-- The value at a location. -/
def at? (d : Document) : Location → Option Document
  | [] => some d
  | place :: rest => (d.child? place).bind (·.at? rest)

/-- The places one step down with their values, in order. -/
def children : Document → List (Place × Document)
  | .object entries => entries.map fun entry => (.key entry.1, entry.2)
  | .list items | .tuple items => items.zipIdx.map fun item => (.item item.2, item.1)
  | _ => []

/-- The order of a document: a table, list or tuple comes before what it holds, and what it holds comes
in its own order. -/
inductive Before : Document → Location → Location → Prop
  | above {d : Document} {place : Place} {rest : Location} : Before d [] (place :: rest)
  | beside {d : Document} {first second : Place} {rest other : Location} :
      [first, second].Sublist (d.children.map (·.1)) → Before d (first :: rest) (second :: other)
  | inside {d child : Document} {place : Place} {rest other : Location} :
      d.child? place = some child → Before child rest other →
      Before d (place :: rest) (place :: other)

end Document

/-- Whether a step takes a place of a document. An index means a position, counted from the end of
the list when it is negative. -/
def Segment.takes : Segment → Document → Place → Bool
  | .key name, .object _, .key other => other == name
  | .index n, .list items, .item position =>
    (position : Int) == if 0 ≤ n then n else items.length + n
  | .wildcard, .object _, .key _ => true
  | .wildcard, .list _, .item _ => true
  | _, _, _ => false

namespace Path

/-- A path addresses a location of a document: its steps take the places of the location one by one,
and every place is there. -/
inductive Addresses : Path → Document → Location → Prop
  | top {d : Document} : Addresses [] d []
  | down {step : Segment} {path : Path} {d child : Document} {place : Place} {rest : Location} :
      step.takes d place = true → d.child? place = some child → Addresses path child rest →
      Addresses (step :: path) d (place :: rest)

/-- The addressed locations with their values, found by going down one branch after the other. -/
def visits : Path → Document → List (Location × Document)
  | [], d => [([], d)]
  | step :: path, d =>
    (d.children.filter fun node => step.takes d node.1).flatMap fun node =>
      (visits path node.2).map fun visit => (node.1 :: visit.1, visit.2)

end Path

/-! ## Children -/

namespace Document

section
variable {d : Document}

/-- The children of a proper document are what is found at its places. -/
theorem Proper.mem_children_iff (h : d.Proper) (place : Place) (child : Document) :
    (place, child) ∈ d.children ↔ d.child? place = some child := by
  cases d with
  | object entries =>
    cases place with
    | key name =>
      simp only [children, child?, List.mem_map, Prod.mk.injEq, Place.key.injEq]
      constructor
      · rintro ⟨⟨other, value⟩, hmem, rfl, rfl⟩
        exact Table.get?_of_mem h.nodup_keys hmem
      · intro hget
        exact ⟨(name, child), Table.mem_of_get? hget, rfl, rfl⟩
    | item position => simp [children, child?]
  | list items | tuple items =>
    cases place with
    | key name => simp [children, child?]
    | item position =>
      simp only [children, child?, List.mem_map, Prod.mk.injEq, Place.item.injEq]
      constructor
      · rintro ⟨⟨item, other⟩, hmem, rfl, rfl⟩
        exact List.mem_zipIdx_iff_getElem?.mp hmem
      · intro hget
        exact ⟨(child, position), List.mem_zipIdx_iff_getElem?.mpr hget, rfl, rfl⟩
  | _ => simp [children, child?]

theorem Proper.nodup_places (h : d.Proper) : (d.children.map (·.1)).Nodup := by
  cases d with
  | object entries =>
    have hkeys : ((Table.keys entries).map Place.key).Nodup :=
      h.nodup_keys.map fun _ _ => Place.key.inj
    rw [Table.keys, List.map_map] at hkeys
    rw [children, List.map_map]
    exact hkeys
  | list items | tuple items =>
    have hpositions : ((items.zipIdx.map Prod.snd).map Place.item).Nodup := by
      rw [List.zipIdx_map_snd]
      exact List.Nodup.map (fun _ _ => Place.item.inj) List.nodup_range'
    rw [List.map_map] at hpositions
    rw [children, List.map_map]
    exact hpositions
  | _ => exact List.nodup_nil

theorem Proper.child (h : d.Proper) {place : Place} {child : Document}
    (hchild : d.child? place = some child) : child.Proper := by
  cases h with
  | object hkeys hvalues =>
    cases place with
    | key name => exact hvalues _ (Table.mem_of_get? hchild)
    | item position => cases hchild
  | list hitems | tuple hitems =>
    cases place with
    | key name => cases hchild
    | item position => exact hitems _ (List.mem_of_getElem? hchild)
  | _ => cases hchild

/-- No location comes before itself. -/
theorem Before.irrefl (h : d.Proper) (location : Location) : ¬ d.Before location location := by
  induction location generalizing d with
  | nil =>
    intro hbefore
    cases hbefore
  | cons place rest ih =>
    intro hbefore
    cases hbefore with
    | beside hsub => exact List.nodup_iff_sublist.mp h.nodup_places place hsub
    | inside hchild hrest => exact ih (h.child hchild) hrest

/-- What is taken from children in their order, each time in the order of the child, is in the order
of the document. -/
theorem Proper.ordered_flatMap (h : d.Proper) {nodes : List (Place × Document)}
    (hnodes : nodes.Sublist d.children) {below : Place × Document → List (Location × Document)}
    (hbelow : ∀ node ∈ nodes, (below node).Pairwise fun first second =>
      node.2.Before first.1 second.1) :
    (nodes.flatMap fun node => (below node).map fun found => (node.1 :: found.1, found.2)).Pairwise
      fun first second => d.Before first.1 second.1 := by
  rw [List.pairwise_flatMap]
  constructor
  · intro node hnode
    have hchild : d.child? node.1 = some node.2 :=
      (h.mem_children_iff _ _).mp (hnodes.subset hnode)
    rw [List.pairwise_map]
    exact (hbelow node hnode).imp fun hbefore => .inside hchild hbefore
  · rw [List.pairwise_iff_forall_sublist]
    intro first second hsub found hfound other hother
    obtain ⟨below, -, rfl⟩ := List.mem_map.mp hfound
    obtain ⟨below', -, rfl⟩ := List.mem_map.mp hother
    exact .beside ((hsub.trans hnodes).map Prod.fst)

/-- Locations in the order of a document are distinct. -/
theorem Proper.nodup_of_ordered (h : d.Proper) {locations : List Location}
    (hordered : locations.Pairwise d.Before) : locations.Nodup := by
  refine hordered.imp fun hbefore heq => ?_
  rw [heq] at hbefore
  exact Before.irrefl h _ hbefore

end

end Document

/-! ## Steps -/

theorem Table.toList_get? {ν : Type} (table : Table String ν) (hkeys : table.keys.Nodup)
    (key : String) :
    (table.get? key).toList = (table.filter (·.1 == key)).map (·.2) := by
  induction table with
  | nil => rfl
  | cons entry rest ih =>
    obtain ⟨k, v⟩ := entry
    rw [keys_cons, List.nodup_cons] at hkeys
    have ih := ih hkeys.2
    by_cases h : k = key
    · subst h
      have hrest := (get?_eq_none_iff rest k).mpr hkeys.1
      rw [hrest] at ih
      rw [get?_cons_self, List.filter_cons_of_pos (by simp), List.map_cons, ← ih]
      rfl
    · rw [get?_cons_of_ne v rest (Ne.symm h), List.filter_cons_of_neg (by simpa using h), ih]

theorem toList_getElem? {α : Type} (items : List α) (start position : Nat) :
    (items[position]?).toList =
      ((items.zipIdx start).filter (·.2 == start + position)).map (·.1) := by
  induction items generalizing start position with
  | nil => rfl
  | cons item rest ih =>
    rw [List.zipIdx_cons]
    cases position with
    | zero =>
      have hrest : ((rest.zipIdx (start + 1)).filter (·.2 == start)) = [] := by
        rw [List.filter_eq_nil_iff]
        intro entry hentry
        have := List.le_snd_of_mem_zipIdx hentry
        simp only [beq_iff_eq]
        omega
      rw [List.filter_cons_of_pos (by simp), Nat.add_zero, hrest]
      rfl
    | succ position =>
      have hnext : start + (position + 1) = start + 1 + position := by omega
      rw [List.getElem?_cons_succ, ih (start + 1) position, hnext,
        List.filter_cons_of_neg (by simp; omega)]

theorem Segment.position?_eq_some_iff (length : Nat) (n : Int) (position : Nat) :
    position? length n = some position ↔
      position < length ∧ (position : Int) = if 0 ≤ n then n else length + n := by
  unfold position?
  split
  · split
    · simp only [Option.some.injEq]
      omega
    · simp only [reduceCtorEq, false_iff, not_and]
      omega
  · split
    · simp only [Option.some.injEq]
      omega
    · simp only [reduceCtorEq, false_iff, not_and]
      omega

/-- A step selects the children at the places that it takes. -/
theorem Segment.select_eq (step : Segment) {d : Document} (h : d.Proper) :
    step.select d = (d.children.filter fun node => step.takes d node.1).map (·.2) := by
  cases d with
  | object entries =>
    rw [Document.children, List.filter_map, List.map_map]
    cases step with
    | key name => exact Table.toList_get? entries h.nodup_keys name
    | index n => simp [select, takes, Function.comp_def]
    | wildcard => simp [select, takes, Function.comp_def, Table.values]
  | list items =>
    rw [Document.children, List.filter_map, List.map_map]
    cases step with
    | key name => simp [select, takes, Function.comp_def]
    | wildcard => simp [select, takes, Function.comp_def]
    | index n =>
      simp only [select, Function.comp_def, takes]
      have hposition := position?_eq_some_iff items.length n
      cases hfound : position? items.length n with
      | none =>
        -- out of range, so the index is that of no item
        simp only [hfound, reduceCtorEq, false_iff, not_and] at hposition
        have hnone : (items.zipIdx.filter fun item =>
            ((item.2 : Int) == if 0 ≤ n then n else items.length + n)) = [] := by
          rw [List.filter_eq_nil_iff]
          intro item hitem
          have hlt := List.snd_lt_of_mem_zipIdx hitem
          simpa using hposition item.2 (by omega)
        rw [hnone]
        rfl
      | some position =>
        obtain ⟨-, htarget⟩ := (hposition position).mp hfound
        have hone := toList_getElem? items 0 position
        rw [Nat.zero_add] at hone
        simp only [Option.bind_some, hone, ← htarget]
        congr 2
        funext item
        rw [Bool.eq_iff_iff, beq_iff_eq, beq_iff_eq, Int.natCast_inj]
  | tuple items =>
    -- a tuple has children, but no step takes them
    have hnone : ∀ place, step.takes (.tuple items) place = false := by
      intro place
      cases step <;> cases place <;> rfl
    simp only [hnone, List.filter_false, List.map_nil]
    cases step <;> rfl
  | _ => cases step <;> rfl

namespace Path

/-! ## Level by level and branch by branch -/

/-- The frontier of a query holds what going down one branch after the other finds, in the same
order. -/
theorem query_eq_visits (path : Path) {d : Document} (h : d.Proper) :
    path.query d = (path.visits d).map (·.2) := by
  induction path generalizing d with
  | nil => rfl
  | cons step rest ih =>
    rw [query_cons, step.select_eq h, List.flatMap_map, visits, List.map_flatMap]
    refine List.flatMap_congr fun node hnode => ?_
    have hchild : d.child? node.1 = some node.2 :=
      (h.mem_children_iff _ _).mp (List.mem_of_mem_filter hnode)
    rw [ih (h.child hchild), List.map_map]
    rfl

theorem mem_visits_iff (path : Path) {d : Document} (h : d.Proper) (location : Location)
    (value : Document) :
    (location, value) ∈ path.visits d ↔ d.at? location = some value ∧ path.Addresses d location := by
  induction path generalizing d location with
  | nil =>
    rw [visits, List.mem_singleton, Prod.mk.injEq]
    constructor
    · rintro ⟨rfl, rfl⟩
      exact ⟨rfl, .top⟩
    · rintro ⟨hat, haddress⟩
      cases haddress
      cases hat
      exact ⟨rfl, rfl⟩
  | cons step rest ih =>
    simp only [visits, List.mem_flatMap, List.mem_filter, List.mem_map, Prod.mk.injEq]
    constructor
    · rintro ⟨⟨place, child⟩, ⟨hmem, htakes⟩, ⟨below, found⟩, hvisit, rfl, rfl⟩
      have hchild := (h.mem_children_iff place child).mp hmem
      obtain ⟨hat, haddress⟩ := (ih (h.child hchild) below).mp hvisit
      exact ⟨by rw [Document.at?, hchild, Option.bind_some, hat], .down htakes hchild haddress⟩
    · rintro ⟨hat, haddress⟩
      cases haddress with
      | @down _ _ _ child place below htakes hchild hrest =>
        rw [Document.at?, hchild, Option.bind_some] at hat
        exact ⟨(place, child), ⟨(h.mem_children_iff place child).mpr hchild, htakes⟩,
          (below, value), (ih (h.child hchild) below).mpr ⟨hat, hrest⟩, rfl, rfl⟩

theorem visits_ordered (path : Path) {d : Document} (h : d.Proper) :
    (path.visits d).Pairwise fun first second => d.Before first.1 second.1 := by
  induction path generalizing d with
  | nil => exact List.pairwise_singleton _ _
  | cons step rest ih =>
    refine h.ordered_flatMap List.filter_sublist fun node hnode => ?_
    have hchild : d.child? node.1 = some node.2 :=
      (h.mem_children_iff _ _).mp (List.mem_of_mem_filter hnode)
    exact ih (h.child hchild)

theorem visits_nodup (path : Path) {d : Document} (h : d.Proper) :
    ((path.visits d).map (·.1)).Nodup :=
  h.nodup_of_ordered (List.pairwise_map.mpr (path.visits_ordered h))

/-! ## Single values -/

theorem length_select_le (step : Segment) (hstep : step ≠ .wildcard) (d : Document) :
    (step.select d).length ≤ 1 := by
  unfold Segment.select
  split
  · exact Option.length_toList_le
  · exact Option.length_toList_le
  · exact absurd rfl hstep
  · exact absurd rfl hstep
  · exact Nat.zero_le 1

/-- A path without wildcards leads to one value at most. -/
theorem length_query_le (path : Path) (hpath : ∀ step ∈ path, step ≠ .wildcard) (d : Document) :
    (path.query d).length ≤ 1 := by
  induction path generalizing d with
  | nil => exact Nat.le_refl 1
  | cons step rest ih =>
    rw [query_cons]
    have hone := length_select_le step (hpath step List.mem_cons_self) d
    have hrest := ih fun step hmem => hpath step (List.mem_cons_of_mem _ hmem)
    match hselect : step.select d with
    | [] => exact Nat.zero_le 1
    | [child] => simpa using hrest child
    | first :: second :: others =>
      rw [hselect] at hone
      simp at hone

theorem Addresses.exists_at? {path : Path} {d : Document} {location : Location}
    (h : path.Addresses d location) : ∃ value, d.at? location = some value := by
  induction h with
  | @top d => exact ⟨d, rfl⟩
  | down _ hchild _ ih =>
    obtain ⟨value, hvalue⟩ := ih
    exact ⟨value, by rw [Document.at?, hchild, Option.bind_some, hvalue]⟩

/-- A list with distinct keys that holds one key only is a singleton. -/
theorem eq_singleton_of_nodup {κ ν : Type} {entries : List (κ × ν)} {entry : κ × ν}
    (hkeys : (entries.map (·.1)).Nodup) (hmem : entry ∈ entries)
    (hone : ∀ other ∈ entries, other.1 = entry.1) : entries = [entry] := by
  match entries with
  | [first] => rw [List.mem_singleton.mp hmem]
  | first :: second :: rest =>
    have hfirst := hone first List.mem_cons_self
    have hsecond := hone second (List.mem_cons_of_mem _ List.mem_cons_self)
    simp [hfirst, hsecond] at hkeys

/-- A path leads to a single value when it addresses a single location, and that is the value. -/
theorem single?_eq_some_iff_addresses (path : Path) {d : Document} (h : d.Proper)
    (value : Document) :
    path.single? d = some value ↔
      ∃ location, d.at? location = some value ∧ path.Addresses d location ∧
        ∀ other, path.Addresses d other → other = location := by
  rw [single?_eq_some_iff, query_eq_visits path h]
  constructor
  · intro hquery
    obtain ⟨⟨location, found⟩, hvisits, rfl⟩ := List.map_eq_singleton_iff.mp hquery
    have hmem := path.mem_visits_iff h
    rw [hvisits] at hmem
    obtain ⟨hat, haddress⟩ := (hmem location found).mp List.mem_cons_self
    refine ⟨location, hat, haddress, fun other hother => ?_⟩
    obtain ⟨value, hvalue⟩ := hother.exists_at?
    have hother := List.mem_singleton.mp ((hmem other value).mpr ⟨hvalue, hother⟩)
    exact congrArg Prod.fst hother
  · rintro ⟨location, hat, haddress, hunique⟩
    have hmem := (path.mem_visits_iff h location value).mpr ⟨hat, haddress⟩
    have hvisits := eq_singleton_of_nodup (path.visits_nodup h) hmem fun other hother =>
      hunique other.1 ((path.mem_visits_iff h other.1 other.2).mp hother).2
    rw [hvisits]
    rfl

/-- For an expression that can be read, a query answers the values at the addressed locations: each
location once, no other, in the order of the document, and so what going down one branch after the
other finds. Without wildcards there is one at most, and looking up a single value finds one exactly
when one location is addressed, be it null. -/
theorem query_addressed (expression : String) (path : Path) (d : Document)
    (hparse : parse expression = .ok path) (hproper : d.Proper) :
    d.query expression = .ok ((path.visits d).map (·.2)) ∧
    (∀ location value, (location, value) ∈ path.visits d ↔
      d.at? location = some value ∧ path.Addresses d location) ∧
    ((path.visits d).map (·.1)).Nodup ∧
    ((path.visits d).Pairwise fun first second => d.Before first.1 second.1) ∧
    ((∀ step ∈ path, step ≠ .wildcard) → (path.visits d).length ≤ 1) ∧
    ∃ outcome, d.lookup expression = .ok outcome ∧
      ∀ value, outcome = some value ↔
        ∃ location, d.at? location = some value ∧ path.Addresses d location ∧
          ∀ other, path.Addresses d other → other = location := by
  have hquery := query_eq_visits path hproper
  refine ⟨?_, path.mem_visits_iff hproper, path.visits_nodup hproper,
    path.visits_ordered hproper, fun hpath => ?_, path.single? d, ?_,
    path.single?_eq_some_iff_addresses hproper⟩
  · rw [Document.query, hparse, ← hquery]
    rfl
  · have hlength := path.length_query_le hpath d
    rw [hquery, List.length_map] at hlength
    exact hlength
  · rw [Document.lookup, hparse]
    rfl

/-- Accounts of which one has no identifier and one has none that is known. -/
def sampleAccounts : Document :=
  .object [("accounts", .list [
    .object [("id", .text "a-1")],
    .object [("name", .text "second")],
    .object [("name", .text "third"), ("id", .null)]])]

theorem sampleAccounts_proper : sampleAccounts.Proper := by
  refine .object (by decide) fun entry hentry => ?_
  obtain rfl := List.mem_singleton.mp hentry
  refine .list fun item hitem => ?_
  simp only [List.mem_cons, List.not_mem_nil, or_false] at hitem
  rcases hitem with rfl | rfl | rfl
  · exact .object (by decide) (by simp [Document.Proper.text])
  · exact .object (by decide) (by simp [Document.Proper.text])
  · exact .object (by decide) (by simp [Document.Proper.text, Document.Proper.null])

theorem query_addressed_accounts :
    parse "$.accounts[*].id" = .ok [.key "accounts", .wildcard, .key "id"] ∧
    sampleAccounts.Proper ∧
    sampleAccounts.query "$.accounts[*].id" = .ok [.text "a-1", .null] := by
  have hparse : parse "$.accounts[*].id" = .ok [.key "accounts", .wildcard, .key "id"] := by cbv
  exact ⟨hparse, sampleAccounts_proper,
    (query_addressed _ _ sampleAccounts hparse sampleAccounts_proper).1⟩

end Path

end AuthBroker
