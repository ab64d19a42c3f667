import AuthBroker.Proofs.Input.Filling
import AuthBroker.Proofs.Path.Grammar

/-! # What the expression of some keys addresses

The keys of a place stand in its expression as they are, joined by points. They are read back as
names when each of them is plain; a text that is read as other pieces is too short for its keys
(`expression_reads_iff`). Plain keys are followed down nested tables, and a field gets the value that
they lead to (`expression_followed`). -/

namespace AuthBroker.Input

/-! ## Specification -/

/-- A key that is read as the name it is: not empty, no star, and without points and opening
brackets. -/
def PlainKey (key : String) : Prop :=
  key ≠ "" ∧ key ≠ "*" ∧ '.' ∉ key.toList ∧ '[' ∉ key.toList

/-- Following keys down nested tables leads from a document to a value. -/
inductive Leads : List String → Document → Document → Prop
  | here {d : Document} : Leads [] d d
  | into {key : String} {keys : List String} {entries : Fields} {child value : Document} :
      entries.get? key = some child → Leads keys child value →
      Leads (key :: keys) (.object entries) value

/-- Following keys comes to one that is not there, as the table lacks it or there is no table. -/
def BreaksOff (keys : List String) (d : Document) : Prop :=
  ∃ before key after reached, keys = before ++ key :: after ∧ Leads before d reached ∧
    ∀ entries : Fields, reached = .object entries → entries.get? key = none

/-! ## The text of an expression -/

theorem toList_expression {keys : List String} (h : keys ≠ []) :
    (expression keys).toList = '$' :: keys.flatMap fun key => '.' :: key.toList := by
  have hjoin : ∀ key rest, (String.intercalate "." (key :: rest)).toList =
      key.toList ++ rest.flatMap fun key => '.' :: key.toList := by
    intro key rest
    induction rest generalizing key with
    | nil => simp
    | cons next rest ih =>
      rw [String.intercalate_cons_of_ne_nil (by simp), String.toList_append, String.toList_append,
        ih, List.flatMap_cons, List.append_assoc]
      rfl
  cases keys with
  | nil => exact absurd rfl h
  | cons key rest =>
    rw [expression, String.toList_append, hjoin, List.flatMap_cons]
    rfl

/-- Plain keys are names. -/
theorem means_of_plainKey {key : String} (h : PlainKey key) :
    Path.Piece.Means (.dotted key.toList) (.key key) := by
  obtain ⟨hne, hstar, hpoint, hbracket⟩ := h
  have hname : Path.Piece.Means (.dotted key.toList) (.key (String.ofList key.toList)) := by
    refine .name ?_ ?_ ?_
    · simpa using hne
    · intro c hc
      exact ⟨fun heq => hpoint (heq ▸ hc), fun heq => hbracket (heq ▸ hc)⟩
    · intro heq
      exact hstar (String.toList_injective heq)
  rw [String.ofList_toList] at hname
  exact hname

theorem forall₂_means {keys : List String} (h : ∀ key ∈ keys, PlainKey key) :
    List.Forall₂ Path.Piece.Means (keys.map (.dotted ·.toList)) (keys.map .key) := by
  induction keys with
  | nil => exact .nil
  | cons key rest ih =>
    exact .cons (means_of_plainKey (h key List.mem_cons_self))
      (ih fun other hother => h other (List.mem_cons_of_mem _ hother))

theorem parse_expression_of_plain {keys : List String} (h : ∀ key ∈ keys, PlainKey key) :
    Path.parse (expression keys) = .ok (keys.map .key) := by
  rw [Path.parse_eq_ok_iff]
  cases keys with
  | nil => exact Path.ofText_of_reads (.root (.inr rfl))
  | cons key rest =>
    refine Path.ofText_of_reads (.steps (by simp) ?_ (forall₂_means h))
    rw [toList_expression (by simp), List.flatMap_map]
    rfl

/-! ## How long the pieces of keys are -/

theorem length_trim_le (cs : List Char) : (Text.trim cs).length ≤ cs.length := by
  rw [Text.trim, Text.trimRight, List.length_reverse]
  have hright := (List.dropWhile_suffix (l := (cs.dropWhile Text.isBlank).reverse)
    Text.isBlank).length_le
  have hleft := (List.dropWhile_suffix (l := cs) Text.isBlank).length_le
  rw [List.length_reverse] at hright
  omega

/-- A piece for a key is longer than the key by its point, and a bracketed one by more. -/
theorem plainKey_or_longer {piece : Path.Piece} {key : String} (h : piece.Means (.key key)) :
    (PlainKey key ∧ piece.text.length = key.toList.length + 1) ∨
      key.toList.length + 1 < piece.text.length := by
  cases h with
  | name hne hchars hstar =>
    refine .inl ⟨⟨?_, ?_, ?_, ?_⟩, ?_⟩
    · exact fun heq => hne (by simpa using congrArg String.toList heq)
    · exact fun heq => hstar (by simpa using congrArg String.toList heq)
    · rw [String.toList_ofList]
      exact fun hmem => (hchars _ hmem).1 rfl
    · rw [String.toList_ofList]
      exact fun hmem => (hchars _ hmem).2 rfl
    · rw [String.toList_ofList, Path.Piece.text, List.length_cons]
  | @selector body _ hbody hselects =>
    refine .inr ?_
    have htrim := length_trim_le body
    generalize Text.trim body = token at hselects htrim
    cases hselects with
    | quoted hquote =>
      simp only [List.length_cons, List.length_append, List.length_nil] at htrim
      rw [String.toList_ofList, Path.Piece.text]
      simp only [List.length_cons, List.length_append, List.length_nil]
      omega

/-- Pieces for keys make a text at least as long as the keys with their points, and longer unless
all keys are plain. -/
theorem plain_or_longer {pieces : List Path.Piece} {keys : List String}
    (h : List.Forall₂ Path.Piece.Means pieces (keys.map .key)) :
    ((∀ key ∈ keys, PlainKey key) ∧ (pieces.flatMap Path.Piece.text).length =
        (keys.flatMap fun key => '.' :: key.toList).length) ∨
      (keys.flatMap fun key => '.' :: key.toList).length <
        (pieces.flatMap Path.Piece.text).length := by
  induction keys generalizing pieces with
  | nil =>
    cases h
    exact .inl ⟨by simp, rfl⟩
  | cons key rest ih =>
    cases h with
    | cons hpiece hrest =>
      simp only [List.flatMap_cons, List.length_append, List.length_cons, List.forall_mem_cons]
      rcases plainKey_or_longer hpiece with ⟨hplain, hlength⟩ | hlonger
      · rcases ih hrest with ⟨hplains, hlengths⟩ | hlongers
        · exact .inl ⟨⟨hplain, hplains⟩, by omega⟩
        · exact .inr (by omega)
      · -- no later piece is short enough to make up for this one
        refine .inr ?_
        rcases ih hrest with ⟨-, hlengths⟩ | hlongers
        · omega
        · omega

/-- Only plain keys are read back from their expression. -/
theorem plain_of_parse_expression {keys : List String}
    (h : Path.parse (expression keys) = .ok (keys.map .key)) : ∀ key ∈ keys, PlainKey key := by
  cases keys with
  | nil => simp
  | cons key rest =>
    obtain ⟨pieces, hreads⟩ := Path.exists_reads_of_ofText ((Path.parse_eq_ok_iff _ _).mp h)
    generalize hpath : (key :: rest).map Segment.key = path at hreads
    cases hreads with
    | root => cases hpath
    | steps _ htext hmeans =>
      subst hpath
      rw [toList_expression (by simp)] at htext
      have hlength := congrArg List.length (List.cons.inj htext).2
      rcases plain_or_longer hmeans with ⟨hplain, -⟩ | hlonger
      · exact hplain
      · omega

theorem expression_reads_iff (keys : List String) :
    Path.parse (expression keys) = .ok (keys.map .key) ↔ ∀ key ∈ keys, PlainKey key :=
  ⟨plain_of_parse_expression, parse_expression_of_plain⟩

/-! ## Following keys -/

theorem query_keys_iff (keys : List String) (d value : Document) :
    Path.query (keys.map .key) d = [value] ↔ Leads keys d value := by
  induction keys generalizing d with
  | nil =>
    rw [List.map_nil, Path.query_nil, List.cons.injEq]
    constructor
    · rintro ⟨rfl, -⟩
      exact .here
    · rintro ⟨⟩
      exact ⟨rfl, rfl⟩
  | cons key rest ih =>
    rw [List.map_cons, Path.query_cons]
    constructor
    · intro hquery
      cases d with
      | object entries =>
        cases hget : Table.get? entries key with
        | none => simp [Segment.select, hget] at hquery
        | some child =>
          simp only [Segment.select, hget, Option.toList_some, List.flatMap_singleton] at hquery
          exact .into hget ((ih child).mp hquery)
      | _ => simp [Segment.select] at hquery
    · rintro (_ | ⟨hget, hleads⟩)
      simp only [Segment.select, hget, Option.toList_some, List.flatMap_singleton]
      exact (ih _).mpr hleads

theorem breaksOff_iff (keys : List String) (d : Document) :
    BreaksOff keys d ↔ ∀ value, ¬ Leads keys d value := by
  constructor
  · rintro ⟨before, key, after, reached, rfl, hbefore, hnone⟩ value hleads
    induction hbefore with
    | here =>
      cases hleads with
      | into hget _ =>
        rw [hnone _ rfl] at hget
        cases hget
    | into hget _ ih =>
      cases hleads with
      | into hget' hrest =>
        rw [hget] at hget'
        cases hget'
        exact ih hnone hrest
  · intro hnone
    induction keys generalizing d with
    | nil => exact absurd .here (hnone d)
    | cons key rest ih =>
      -- the way ends at this key, or further down
      by_cases hchild : ∃ entries child, d = .object entries ∧ Table.get? entries key = some child
      · obtain ⟨entries, child, rfl, hget⟩ := hchild
        obtain ⟨before, other, after, reached, rfl, hbefore, hlast⟩ :=
          ih child fun value hleads => hnone value (.into hget hleads)
        exact ⟨key :: before, other, after, reached, rfl, .into hget hbefore, hlast⟩
      · refine ⟨[], key, rest, d, rfl, .here, fun entries hentries => ?_⟩
        rw [Option.eq_none_iff_forall_ne_some]
        exact fun child hget => hchild ⟨entries, child, hentries, hget⟩

theorem get?_resolve (configuration : Document) {declarations : Declarations} {field : String}
    {keys : List String} (hfields : declarations.keys.Nodup)
    (hkeys : declarations.get? field = some keys) :
    Table.get? (resolve configuration (expressions declarations)).1 field =
      (resolveField configuration field (expression keys)).toOption := by
  rw [resolve_expressions, Table.get?_filterMap
    (fun field keys => (resolveField configuration field (expression keys)).toOption) _ hfields,
    hkeys, Option.bind_some]

/-- For plain keys a field gets what the keys lead to. -/
theorem get?_resolve_eq_some_iff {declarations : Declarations} {field : String}
    {keys : List String} {stored : Document} (hstored : stored.isNull = false)
    (hplain : ∀ key ∈ keys, PlainKey key) (hfields : declarations.keys.Nodup)
    (hkeys : declarations.get? field = some keys) (value : Document) :
    Table.get? (resolve stored (expressions declarations)).1 field = some value ↔
      Leads keys stored value := by
  rw [get?_resolve _ hfields hkeys, toOption_eq_some_iff, ← query_keys_iff,
    resolveField_eq_ok_iff, parse_expression_of_plain hplain]
  simp [hstored]

/-- The expression of keys is read as these keys exactly when all of them are plain. Then a field
that they are declared for gets the value that they lead to in what is stored, and is left out
exactly when one of them is not there; null stands for nothing being stored. Otherwise the expression
is no path, or one with other steps; that of one empty key addresses the whole document. -/
theorem expression_followed (keys : List String) :
    (Path.parse (expression keys) = .ok (keys.map .key) ↔ ∀ key ∈ keys, PlainKey key) ∧
    ((∀ key ∈ keys, PlainKey key) →
      ∀ (declarations : Declarations) (field : String) (stored : Document),
        stored.isNull = false → declarations.keys.Nodup → declarations.get? field = some keys →
        (∀ value, Table.get? (resolve stored (expressions declarations)).1 field = some value ↔
          Leads keys stored value) ∧
        (field ∉ Table.keys (resolve stored (expressions declarations)).1 ↔
          BreaksOff keys stored)) ∧
    ((¬ ∀ key ∈ keys, PlainKey key) →
      (∃ defect, Path.parse (expression keys) = .error ⟨expression keys, defect⟩) ∨
        ∃ path, Path.parse (expression keys) = .ok path ∧ path ≠ keys.map .key) ∧
    ∀ d : Document, d.query (expression [""]) = .ok [d] := by
  refine ⟨expression_reads_iff keys, ?_, ?_, fun d => ?_⟩
  · intro hplain declarations field stored hstored hfields hkeys
    have hvalue := get?_resolve_eq_some_iff hstored hplain hfields hkeys
    refine ⟨hvalue, ?_⟩
    rw [breaksOff_iff, ← Table.get?_eq_none_iff, Option.eq_none_iff_forall_ne_some]
    exact forall_congr' fun value => not_congr (hvalue value)
  · intro hodd
    cases hparse : Path.ofText (expression keys) with
    | error defect => exact .inl ⟨defect, by rw [Path.parse, hparse]; rfl⟩
    | ok path =>
      have hpath := (Path.parse_eq_ok_iff _ _).mpr hparse
      refine .inr ⟨path, hpath, ?_⟩
      rintro rfl
      exact hodd (plain_of_parse_expression hpath)
  · have hroot : Path.ofText (expression [""]) = .ok [] := Path.ofText_of_reads (.root (.inr rfl))
    rw [Document.query, (Path.parse_eq_ok_iff _ _).mpr hroot]
    rfl

/-- A client whose identifier is stored one table down. -/
theorem expression_followed_nested :
    (∀ key ∈ ["credentials", "client_id"], PlainKey key) ∧
    Table.get? (resolve (.object [("credentials", .object [("client_id", .text "client-1")])])
      (expressions [("client", ["credentials", "client_id"])])).1 "client" =
        some (.text "client-1") := by
  have hplain : ∀ key ∈ ["credentials", "client_id"], PlainKey key := by
    unfold PlainKey
    decide
  obtain ⟨-, hfollowed, -⟩ := expression_followed ["credentials", "client_id"]
  obtain ⟨hvalue, -⟩ := hfollowed hplain [("client", ["credentials", "client_id"])] "client"
    (.object [("credentials", .object [("client_id", .text "client-1")])]) rfl (by decide) rfl
  exact ⟨hplain, (hvalue _).mpr (.into rfl (.into rfl .here))⟩

end AuthBroker.Input
