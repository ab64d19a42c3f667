import AuthBroker.Proofs.Path.Grammar
import AuthBroker.Proofs.Text.Decimal

/-! # Canonical expressions

Every path is written in one canonical way: the wildcard as `[*]`, an index in decimal between
brackets, and a key in quotes between brackets, or behind a point where it holds a closing bracket and
so cannot stand between brackets. A key with a closing bracket and a point or an opening bracket has
no piece at all, and neither has an index beyond the digits that are read. These are the only paths
that no expression has, and all others are read back from their canonical expressions
(`parse_canonical`). -/

namespace AuthBroker

/-! ## Canonical pieces -/

/-- The piece that a step is written as. -/
def Segment.piece : Segment → Path.Piece
  | .wildcard => .bracketed ['*']
  | .index n => .bracketed (Document.intText n)
  | .key name =>
    if ']' ∈ name.toList then .dotted name.toList
    else .bracketed ('\'' :: (name.toList ++ ['\'']))

/-- Whether a step has any piece. -/
def Segment.Writable : Segment → Prop
  | .wildcard => True
  | .index n => n.natAbs < 10 ^ Text.digitLimit
  | .key name => ']' ∈ name.toList → '.' ∉ name.toList ∧ '[' ∉ name.toList

/-- The canonical expression of a path. -/
def Path.canonical (path : Path) : String :=
  String.ofList ('$' :: path.flatMap fun step => step.piece.text)

/-! ## Trimmed texts -/

namespace Text

theorem mem_of_mem_trim {c : Char} {cs : List Char} (h : c ∈ trim cs) : c ∈ cs := by
  rw [trim, trimRight, List.mem_reverse] at h
  have hright := (List.dropWhile_suffix isBlank).mem h
  rw [List.mem_reverse] at hright
  exact (List.dropWhile_suffix isBlank).mem hright

/-- A text without blanks at its ends is trimmed already. -/
theorem trim_eq_self {cs : List Char} (hfirst : ∀ c ∈ cs.head?, isBlank c = false)
    (hlast : ∀ c ∈ cs.getLast?, isBlank c = false) : trim cs = cs := by
  have hkeep : ∀ {cs : List Char}, (∀ c ∈ cs.head?, isBlank c = false) →
      cs.dropWhile isBlank = cs := by
    intro cs h
    cases cs with
    | nil => rfl
    | cons c rest => rw [List.dropWhile_cons_of_neg (by simpa using h c rfl)]
  rw [trim, trimRight, hkeep hfirst, hkeep (by simpa using hlast), List.reverse_reverse]

theorem isBlank_of_isDigit {c : Char} (h : c.isDigit = true) : isBlank c = false := by
  simp only [Char.isDigit, Bool.and_eq_true, decide_eq_true_eq] at h
  have hlow : 48 ≤ c.toNat := UInt32.le_iff_toNat_le.mp h.1
  have hhigh : c.toNat ≤ 57 := UInt32.le_iff_toNat_le.mp h.2
  simp only [isBlank, blankRanges, List.any_cons, List.any_nil, Bool.or_false,
    Bool.or_eq_false_iff, Bool.and_eq_false_iff, decide_eq_false_iff_not]
  omega

theorem trim_intText (n : Int) : trim (Document.intText n) = Document.intText n := by
  have hchars : ∀ c ∈ Document.intText n, isBlank c = false := by
    intro c hc
    rcases Document.isDigit_or_minus_of_mem_intText hc with hdigit | rfl
    · exact isBlank_of_isDigit hdigit
    · decide
  apply trim_eq_self
  · intro c hc
    exact hchars c (List.mem_of_mem_head? hc)
  · intro c hc
    exact hchars c (List.mem_of_getLast? hc)

end Text

namespace Path

/-! ## What has a piece -/

theorem bracket_notMem_intText (n : Int) : ']' ∉ Document.intText n :=
  Document.notMem_intText (by decide) (by decide) n

/-- The canonical piece of a step stands for the step. -/
theorem means_piece {step : Segment} (h : step.Writable) : step.piece.Means step := by
  cases step with
  | wildcard => exact .selector (by decide) .wildcard
  | index n =>
    apply Piece.Means.selector (bracket_notMem_intText n)
    rw [Text.trim_intText]
    exact .index (Text.isInteger_intText h)
  | key name =>
    by_cases hname : ']' ∈ name.toList
    · obtain ⟨hpoint, hbracket⟩ := h hname
      have hmeans : Piece.Means (.dotted name.toList) (.key (String.ofList name.toList)) := by
        apply Piece.Means.name
        · intro hnil
          rw [hnil] at hname
          cases hname
        · intro c hc
          constructor
          · rintro rfl
            exact hpoint hc
          · rintro rfl
            exact hbracket hc
        · intro hstar
          rw [hstar] at hname
          exact absurd hname (by decide)
      rw [String.ofList_toList] at hmeans
      rw [Segment.piece, if_pos hname]
      exact hmeans
    · -- the quotes keep blanks at the ends of the key from being trimmed
      have htrim : Text.trim ('\'' :: (name.toList ++ ['\''])) =
          '\'' :: (name.toList ++ ['\'']) := by
        apply Text.trim_eq_self
        · intro c hc
          rw [← Option.mem_some_iff.mp hc]
          decide
        · intro c hc
          rw [← List.cons_append, List.getLast?_concat] at hc
          rw [← Option.mem_some_iff.mp hc]
          decide
      have hmeans : Piece.Means (.bracketed ('\'' :: (name.toList ++ ['\''])))
          (.key (String.ofList name.toList)) := by
        apply Piece.Means.selector
        · simp [hname]
        · rw [htrim]
          exact .quoted (.inl rfl)
      rw [String.ofList_toList] at hmeans
      rw [Segment.piece, if_neg hname]
      exact hmeans

/-- What a piece stands for has a piece. -/
theorem Piece.Means.writable {piece : Piece} {step : Segment} (h : piece.Means step) :
    step.Writable := by
  cases h with
  | wildcard => trivial
  | name _ hchars _ =>
    intro _
    rw [String.toList_ofList]
    constructor
    · intro hpoint
      exact (hchars _ hpoint).1 rfl
    · intro hbracket
      exact (hchars _ hbracket).2 rfl
  | @selector body step hbody hselects =>
    have hmem := fun hc : ']' ∈ Text.trim body => hbody (Text.mem_of_mem_trim hc)
    generalize Text.trim body = token at hselects hmem
    cases hselects with
    | wildcard => trivial
    | index hint => exact hint.natAbs_lt
    | @quoted quote name _ =>
      -- a closing bracket in the key would stand in the body
      intro hname
      rw [String.toList_ofList] at hname
      have hin : ']' ∈ quote :: (name ++ [quote]) := by simp [hname]
      exact absurd hin hmem

/-! ## Reading back -/

theorem forall₂_means_piece {path : Path} (h : ∀ step ∈ path, step.Writable) :
    List.Forall₂ Piece.Means (path.map Segment.piece) path := by
  rw [List.forall₂_map_left_iff, List.forall₂_same]
  intro step hstep
  exact means_piece (h step hstep)

theorem parse_canonical_of_writable {path : Path} (h : ∀ step ∈ path, step.Writable) :
    parse path.canonical = .ok path := by
  rw [canonical, ← List.flatMap_map]
  exact parse_pieces (forall₂_means_piece h)

theorem writable_of_means {pieces : List Piece} {path : Path}
    (h : List.Forall₂ Piece.Means pieces path) : ∀ step ∈ path, step.Writable := by
  induction h with
  | nil => simp
  | cons hpiece _ ih =>
    rw [List.forall_mem_cons]
    exact ⟨hpiece.writable, ih⟩

theorem writable_of_parse {expression : String} {path : Path} (h : parse expression = .ok path) :
    ∀ step ∈ path, step.Writable := by
  obtain ⟨pieces, hreads⟩ := exists_reads_of_ofText ((parse_eq_ok_iff expression path).mp h)
  cases hreads with
  | root => simp
  | steps _ _ hmeans => exact writable_of_means hmeans

/-- The steps of an expression are read back from their canonical expression. The paths that some
expression has are those in which no key holds a closing bracket together with a point or an opening
bracket, and every index is below `10 ^ 4300` in absolute value, 4300 being the limit of digits. -/
theorem parse_canonical :
    (∀ expression path, parse expression = .ok path → parse path.canonical = .ok path) ∧
    ∀ path : Path, (∃ expression, parse expression = .ok path) ↔
      (∀ name, .key name ∈ path → ']' ∈ name.toList → '.' ∉ name.toList ∧ '[' ∉ name.toList) ∧
      ∀ n, .index n ∈ path → n.natAbs < 10 ^ Text.digitLimit := by
  refine ⟨fun expression path h => parse_canonical_of_writable (writable_of_parse h), ?_⟩
  intro path
  constructor
  · rintro ⟨expression, h⟩
    have hwritable := writable_of_parse h
    exact ⟨fun name hname => hwritable _ hname, fun n hn => hwritable _ hn⟩
  · rintro ⟨hkeys, hindices⟩
    refine ⟨path.canonical, parse_canonical_of_writable fun step hstep => ?_⟩
    cases step with
    | wildcard => trivial
    | key name => exact hkeys name hstep
    | index n => exact hindices n hstep

/-- An empty key, a star in quotes, an index in other digits, and a key that has no piece. -/
theorem parse_canonical_odd_keys :
    parse "$[ 'a.b' ].x]['']['*'][-٣].*" =
      .ok [.key "a.b", .key "x]", .key "", .key "*", .index (-3), .wildcard] ∧
    parse "$['a.b'].x]['']['*'][-3][*]" =
      .ok [.key "a.b", .key "x]", .key "", .key "*", .index (-3), .wildcard] ∧
    ¬ ∃ expression, parse expression = .ok [.key "[a]"] := by
  have hparse : parse "$[ 'a.b' ].x]['']['*'][-٣].*" =
      .ok [.key "a.b", .key "x]", .key "", .key "*", .index (-3), .wildcard] := by decide +kernel
  have hcanonical : canonical [.key "a.b", .key "x]", .key "", .key "*", .index (-3), .wildcard] =
      "$['a.b'].x]['']['*'][-3][*]" := by cbv
  have hback := parse_canonical.1 _ _ hparse
  rw [hcanonical] at hback
  refine ⟨hparse, hback, fun h => ?_⟩
  have hkey := ((parse_canonical.2 _).mp h).1 "[a]" List.mem_cons_self (by decide)
  exact hkey.2 (by decide)

end Path

end AuthBroker
