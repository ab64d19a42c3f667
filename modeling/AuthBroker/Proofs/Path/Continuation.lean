import AuthBroker.Path.Query
import AuthBroker.Proofs.Path.Grammar

/-! # Expressions that go on

A text that starts with a point or an opening bracket goes on where an expression ends: the last name
of the expression stops before it, and what it adds is read as it would be behind a root of its own
(`readSteps_append`). The two exceptions are `$.`, whose point is no piece, and a point alone. So the
steps of the longer expression are those of its two parts, and it finds what the second part finds
from each value that the first part finds (`query_continued`). -/

namespace AuthBroker.Path

/-! ## Texts in two parts -/

/-- A point or an opening bracket ends the name before it. -/
def GoesOn (text : List Char) : Prop :=
  ∃ c rest, text = c :: rest ∧ (c = '.' ∨ c = '[')

theorem GoesOn.head {text : List Char} (h : GoesOn text) :
    ∀ c ∈ text.head?, isNameChar c = false := by
  obtain ⟨c, rest, rfl, hc⟩ := h
  intro other hother
  have heq : other = c := (Option.mem_some_iff.mp hother).symm
  subst heq
  rcases hc with rfl | rfl
  · decide
  · decide

theorem head_pieces_append (pieces : List Piece) {rest : List Char}
    (hrest : ∀ c ∈ rest.head?, isNameChar c = false) :
    ∀ c ∈ (pieces.flatMap Piece.text ++ rest).head?, isNameChar c = false := by
  intro c hc
  cases htext : pieces.flatMap Piece.text with
  | nil =>
    rw [htext, List.nil_append] at hc
    exact hrest c hc
  | cons first others =>
    have hpieces := head_pieces pieces c
    rw [htext] at hc hpieces
    exact hpieces hc

/-- Behind its pieces the reader is where it would be at the start of the rest. -/
theorem readSteps_append {pieces : List Piece} {path : Path}
    (h : List.Forall₂ Piece.Means pieces path) {rest : List Char}
    (hrest : ∀ c ∈ rest.head?, isNameChar c = false) (position : Nat) :
    readSteps position (pieces.flatMap Piece.text ++ rest) =
      (readSteps (position + (pieces.flatMap Piece.text).length) rest).map (path ++ ·) := by
  induction h generalizing position with
  | nil =>
    rw [List.flatMap_nil, List.nil_append, List.length_nil, Nat.add_zero]
    cases readSteps position rest with
    | error defect => rfl
    | ok steps => rfl
  | @cons piece step pieces path hpiece _ ih =>
    have hjoin : ∀ position, (((readSteps position rest).map (path ++ ·)).map (step :: ·) :
        Except Defect Path) = (readSteps position rest).map (step :: path ++ ·) := by
      intro position
      cases readSteps position rest with
      | error defect => rfl
      | ok steps => rfl
    cases piece with
    | dotted name =>
      obtain ⟨hne, hname, hstep⟩ := (means_dotted_iff name step).mp hpiece
      have htext : (Piece.dotted name :: pieces).flatMap Piece.text ++ rest =
          '.' :: (name ++ (pieces.flatMap Piece.text ++ rest)) := by
        simp [Piece.text]
      have hplace : position + 1 + name.length + (pieces.flatMap Piece.text).length =
          position + ((Piece.dotted name :: pieces).flatMap Piece.text).length := by
        simp only [List.flatMap_cons, Piece.text, List.length_append, List.length_cons]
        omega
      rw [htext, readSteps_dotted position hne hname (head_pieces_append pieces hrest), ih, hplace,
        ← hstep, hjoin]
    | bracketed body =>
      obtain ⟨hbody, hstep⟩ := (means_bracketed_iff body step).mp hpiece
      have htext : (Piece.bracketed body :: pieces).flatMap Piece.text ++ rest =
          '[' :: (body ++ ']' :: (pieces.flatMap Piece.text ++ rest)) := by
        simp [Piece.text]
      have hplace : position + body.length + 2 + (pieces.flatMap Piece.text).length =
          position + ((Piece.bracketed body :: pieces).flatMap Piece.text).length := by
        simp only [List.flatMap_cons, Piece.text, List.length_append, List.length_cons,
          List.length_nil]
        omega
      rw [htext, readSteps_bracketed position _ hbody hstep, ih, hplace, hjoin]

/-- Where a text stands only shows in defects. -/
theorem readSteps_anywhere {position : Nat} {text : List Char} {path : Path}
    (h : readSteps position text = .ok path) (other : Nat) : readSteps other text = .ok path := by
  obtain ⟨pieces, rfl, hmeans⟩ := exists_pieces_of_readSteps h
  exact readSteps_pieces hmeans other

/-! ## Expressions in two parts -/

theorem exists_pieces_of_parse {expression : String} {path : Path} (hne : expression ≠ "$.")
    (h : parse expression = .ok path) :
    ∃ pieces, expression.toList = '$' :: pieces.flatMap Piece.text ∧
      List.Forall₂ Piece.Means pieces path := by
  obtain ⟨pieces, hreads⟩ := exists_reads_of_ofText ((parse_eq_ok_iff expression path).mp h)
  cases hreads with
  | root hroot =>
    rcases hroot with rfl | rfl
    · exact ⟨[], rfl, .nil⟩
    · exact absurd rfl hne
  | steps _ htext hmeans => exact ⟨pieces, htext, hmeans⟩

section
variable {expression more : String} {path : Path}

/-- What goes on is read on its own, and its steps follow those that come before. -/
theorem parse_append_iff (hparse : parse expression = .ok path) (hne : expression ≠ "$.")
    (hmore : GoesOn more.toList) (hpoint : more ≠ ".") (whole : Path) :
    parse (expression ++ more) = .ok whole ↔
      ∃ tail, parse ("$" ++ more) = .ok tail ∧ whole = path ++ tail := by
  obtain ⟨pieces, htext, hmeans⟩ := exists_pieces_of_parse hne hparse
  have hroot : ofText ("$" ++ more) = readSteps 1 more.toList := by
    apply ofText_of_ne_point
    · rw [String.toList_append]
      rfl
    · intro heq
      have hlist : '$' :: more.toList = ['$', '.'] := by
        simpa using congrArg String.toList heq
      exact hpoint (String.toList_injective (List.cons.inj hlist).2)
  have hwhole : ofText (expression ++ more) =
      (readSteps (1 + (pieces.flatMap Piece.text).length) more.toList).map (path ++ ·) := by
    rw [← readSteps_append hmeans hmore.head]
    apply ofText_of_ne_point
    · rw [String.toList_append, htext, List.cons_append]
    · intro heq
      have hlist : pieces.flatMap Piece.text ++ more.toList = ['.'] := by
        simpa [htext] using congrArg String.toList heq
      -- the one point would be all of the second part, or a piece
      obtain ⟨c, rest, hcons, -⟩ := hmore
      cases hpieces : pieces.flatMap Piece.text with
      | nil =>
        rw [hpieces, List.nil_append] at hlist
        exact hpoint (String.toList_injective hlist)
      | cons first others => simp [hpieces, hcons] at hlist
  rw [parse_eq_ok_iff, hwhole]
  constructor
  · intro h
    cases htail : readSteps (1 + (pieces.flatMap Piece.text).length) more.toList with
    | error defect =>
      rw [htail] at h
      cases h
    | ok tail =>
      rw [htail] at h
      have hsteps : path ++ tail = whole := Except.ok.inj h
      refine ⟨tail, ?_, hsteps.symm⟩
      rw [parse_eq_ok_iff, hroot]
      exact readSteps_anywhere htail 1
  · rintro ⟨tail, htail, rfl⟩
    rw [parse_eq_ok_iff, hroot] at htail
    rw [readSteps_anywhere htail]
    rfl

theorem query_of_parse (d : Document) (hparse : parse expression = .ok path) :
    d.query expression = .ok (path.query d) := by
  rw [Document.query, hparse]
  rfl

end

/-- Where an expression goes on with a text, the whole is a path exactly when the text is one behind a
root of its own. Its steps are then those of the expression followed by those of the text, and it
finds, in order, what the text finds from each value that the expression finds. -/
theorem query_continued (expression more : String) (path : Path)
    (hparse : parse expression = .ok path) (hne : expression ≠ "$.") (hmore : GoesOn more.toList)
    (hpoint : more ≠ ".") :
    ((∃ whole, parse (expression ++ more) = .ok whole) ↔ ∃ tail, parse ("$" ++ more) = .ok tail) ∧
    ∀ tail, parse ("$" ++ more) = .ok tail →
      parse (expression ++ more) = .ok (path ++ tail) ∧
      ∀ d : Document, ∃ reached found,
        d.query expression = .ok reached ∧
        List.Forall₂ (fun v values => v.query ("$" ++ more) = .ok values) reached found ∧
        d.query (expression ++ more) = .ok found.flatten := by
  have happend := parse_append_iff hparse hne hmore hpoint
  refine ⟨⟨?_, ?_⟩, ?_⟩
  · rintro ⟨whole, hwhole⟩
    obtain ⟨tail, htail, -⟩ := (happend whole).mp hwhole
    exact ⟨tail, htail⟩
  · rintro ⟨tail, htail⟩
    exact ⟨path ++ tail, (happend _).mpr ⟨tail, htail, rfl⟩⟩
  · intro tail htail
    have hwhole := (happend (path ++ tail)).mpr ⟨tail, htail, rfl⟩
    refine ⟨hwhole, fun d => ⟨path.query d, (path.query d).map tail.query, query_of_parse d hparse,
      ?_, ?_⟩⟩
    · rw [List.forall₂_map_right_iff, List.forall₂_same]
      intro v _
      exact query_of_parse v htail
    · rw [query_of_parse d hwhole, query_append, List.flatMap_def]

/-- A name that ends in a closing bracket, and a quoted key with a point and a bracket in it. -/
theorem query_continued_odd_keys :
    parse "$.a]" = .ok [.key "a]"] ∧ "$.a]" ≠ "$." ∧ GoesOn "['.[b'][*]".toList ∧
    "['.[b'][*]" ≠ "." ∧ parse "$['.[b'][*]" = .ok [.key ".[b", .wildcard] ∧
    parse "$.a]['.[b'][*]" = .ok [.key "a]", .key ".[b", .wildcard] ∧
    (Document.object [("a]", .object [(".[b", .list [.int 1, .null])])]).query "$.a]['.[b'][*]" =
      .ok [.int 1, .null] := by
  have hparse : parse "$.a]" = .ok [.key "a]"] := by cbv
  have htail : parse "$['.[b'][*]" = .ok [.key ".[b", .wildcard] := by cbv
  have hgoes : GoesOn "['.[b'][*]".toList := ⟨'[', _, rfl, .inr rfl⟩
  have hwhole := (query_continued "$.a]" "['.[b'][*]" _ hparse (by decide) hgoes (by decide)).2
    _ htail
  refine ⟨hparse, by decide, hgoes, by decide, htail, hwhole.1, ?_⟩
  exact query_of_parse _ hwhole.1

end AuthBroker.Path
