import Mathlib.Data.List.Forall2
import AuthBroker.Path.Basic
import AuthBroker.Proofs.Text.Integer

/-! # The grammar of path expressions

An expression is `$`, `$.`, or `$` followed by pieces: a point and a name, or brackets around a
body. `Piece.Means` says which step a piece stands for, and `Reads` how an expression is cut into
pieces. Reading accepts exactly the expressions of the grammar, with the steps of their pieces, and
refuses every other expression; no expression can be cut in two ways (`parse_iff_reads`). -/

namespace AuthBroker.Path

/-! ## Pieces -/

/-- A step as it is written: a point and a name, or brackets around a body. -/
inductive Piece where
  | dotted (name : List Char)
  | bracketed (body : List Char)
  deriving DecidableEq, Repr

/-- The text of a piece. -/
def Piece.text : Piece → List Char
  | .dotted name => '.' :: name
  | .bracketed body => '[' :: (body ++ [']'])

/-- What a text between brackets selects, blanks around it left out: everything, the key between
two equal quotes, or an index. -/
inductive Selects : List Char → Segment → Prop
  | wildcard : Selects ['*'] .wildcard
  | quoted {quote : Char} {name : List Char} : quote = '\'' ∨ quote = '"' →
      Selects (quote :: (name ++ [quote])) (.key (String.ofList name))
  | index {token : List Char} {n : Int} : Text.IsInteger token n → Selects token (.index n)

/-- The step that a piece stands for. A name holds no point and no opening bracket, and a body no
closing bracket. -/
inductive Piece.Means : Piece → Segment → Prop
  | wildcard : Means (.dotted ['*']) .wildcard
  | name {name : List Char} : name ≠ [] → (∀ c ∈ name, c ≠ '.' ∧ c ≠ '[') → name ≠ ['*'] →
      Means (.dotted name) (.key (String.ofList name))
  | selector {body : List Char} {step : Segment} : ']' ∉ body →
      Selects (Text.trim body) step → Means (.bracketed body) step

/-- An expression, the pieces that it consists of and the steps that they stand for. -/
inductive Reads (expression : String) : List Piece → Path → Prop
  | root : expression = "$" ∨ expression = "$." → Reads expression [] []
  | steps {pieces : List Piece} {path : Path} : pieces ≠ [] →
      expression.toList = '$' :: pieces.flatMap Piece.text →
      List.Forall₂ Piece.Means pieces path → Reads expression pieces path

/-! ## Selectors -/

theorem quotedKey?_eq_some_iff (token name : List Char) :
    quotedKey? token = some name ↔
      ∃ quote, (quote = '\'' ∨ quote = '"') ∧ token = quote :: (name ++ [quote]) := by
  cases token with
  | nil => simp [quotedKey?]
  | cons c rest =>
    simp only [quotedKey?, Bool.and_eq_true, Bool.or_eq_true, beq_iff_eq]
    constructor
    · intro h
      split at h
      · rename_i hc
        obtain ⟨hquote, hlast⟩ := hc
        obtain ⟨front, rfl⟩ := List.getLast?_eq_some_iff.mp hlast
        cases h
        exact ⟨c, hquote, by rw [List.dropLast_concat]⟩
      · cases h
    · rintro ⟨quote, hquote, htoken⟩
      obtain ⟨rfl, rfl⟩ := List.cons.inj htoken
      rw [if_pos ⟨hquote, List.getLast?_concat⟩, List.dropLast_concat]

/-- No integer starts with a character that is neither a sign nor a digit. -/
theorem not_isInteger_cons {c : Char} {rest : List Char} {n : Int}
    (hc : c = '*' ∨ c = '\'' ∨ c = '"') : ¬ Text.IsInteger (c :: rest) n := by
  intro h
  obtain ⟨d, tail, heq, hd⟩ := h.head
  obtain ⟨rfl, rfl⟩ := List.cons.inj heq
  rcases hc with rfl | rfl | rfl <;> exact absurd hd (by decide)

theorem selector?_eq_some_iff (token : List Char) (step : Segment) :
    selector? token = some step ↔ Selects token step := by
  unfold selector?
  constructor
  · intro h
    split at h
    · rename_i hstar
      cases h
      exact hstar ▸ .wildcard
    split at h
    · rename_i name hname
      obtain ⟨quote, hquote, rfl⟩ := (quotedKey?_eq_some_iff token name).mp hname
      cases h
      exact .quoted hquote
    · obtain ⟨n, hn, rfl⟩ := Option.map_eq_some_iff.mp h
      exact .index (Text.isInteger_of_readInt? hn)
  · intro h
    cases h with
    | wildcard => rfl
    | @quoted quote name hquote =>
      have hkey := (quotedKey?_eq_some_iff _ name).mpr ⟨quote, hquote, rfl⟩
      rw [if_neg (by simp), hkey]
    | @index _ n hint =>
      -- the readings by a star or by quotes come first, and an integer admits neither
      have hstar : token ≠ ['*'] := by
        rintro rfl
        exact not_isInteger_cons (.inl rfl) hint
      have hkey : quotedKey? token = none := by
        rw [Option.eq_none_iff_forall_ne_some]
        intro name hname
        obtain ⟨quote, hquote, rfl⟩ := (quotedKey?_eq_some_iff token name).mp hname
        exact not_isInteger_cons (.inr hquote) hint
      rw [if_neg hstar, hkey]
      dsimp only
      rw [Text.readInt?_of_isInteger hint]
      rfl

/-! ## The step of a piece -/

theorem isNameChar_iff (c : Char) : isNameChar c = true ↔ c ≠ '.' ∧ c ≠ '[' := by
  simp [isNameChar]

theorem means_dotted_iff (name : List Char) (step : Segment) :
    Piece.Means (.dotted name) step ↔
      name ≠ [] ∧ (∀ c ∈ name, isNameChar c = true) ∧ step = namedStep name := by
  simp only [isNameChar_iff]
  constructor
  · intro h
    cases h with
    | wildcard => exact ⟨by simp, by simp, rfl⟩
    | name hne hchars hstar => exact ⟨hne, hchars, by rw [namedStep, if_neg hstar]⟩
  · rintro ⟨hne, hchars, rfl⟩
    by_cases hstar : name = ['*']
    · subst hstar
      exact .wildcard
    · rw [namedStep, if_neg hstar]
      exact .name hne hchars hstar

theorem means_bracketed_iff (body : List Char) (step : Segment) :
    Piece.Means (.bracketed body) step ↔
      ']' ∉ body ∧ selector? (Text.trim body) = some step := by
  rw [selector?_eq_some_iff]
  exact ⟨fun h => by cases h with | selector hbody hsel => exact ⟨hbody, hsel⟩,
    fun h => .selector h.1 h.2⟩

/-! ## Maximal runs -/

theorem takeWhile_run {p : Char → Bool} {run rest : List Char} (hrun : ∀ c ∈ run, p c = true)
    (hrest : ∀ c ∈ rest.head?, p c = false) : (run ++ rest).takeWhile p = run := by
  rw [List.takeWhile_append_of_pos hrun]
  cases rest with
  | nil => simp
  | cons c rest => simp [hrest c rfl]

theorem dropWhile_run {p : Char → Bool} {run rest : List Char} (hrun : ∀ c ∈ run, p c = true)
    (hrest : ∀ c ∈ rest.head?, p c = false) : (run ++ rest).dropWhile p = rest := by
  rw [List.dropWhile_append_of_pos hrun]
  cases rest with
  | nil => rfl
  | cons c rest => simp [hrest c rfl]

/-- What follows a piece is the end or starts another piece, so a name is as long as it can be. -/
theorem head_pieces (pieces : List Piece) :
    ∀ c ∈ (pieces.flatMap Piece.text).head?, isNameChar c = false := by
  cases pieces with
  | nil => simp
  | cons piece rest =>
    cases piece <;> simp [Piece.text, isNameChar]

theorem ne_bracket_of_notMem {body : List Char} (h : ']' ∉ body) :
    ∀ c ∈ body, (c != ']') = true := by
  intro c hc
  simp only [bne_iff_ne, ne_eq]
  rintro rfl
  exact h hc

theorem notMem_takeWhile (rest : List Char) : ']' ∉ rest.takeWhile (· != ']') := by
  intro hmem
  have := List.all_eq_true.mp List.all_takeWhile ']' hmem
  simp at this

/-- The first closing bracket stands behind the body. -/
theorem eq_append_of_dropWhile {rest after : List Char} {close : Char}
    (h : rest.dropWhile (· != ']') = close :: after) :
    rest = rest.takeWhile (· != ']') ++ ']' :: after := by
  have hclose := List.head?_dropWhile_not (· != ']') rest
  rw [h] at hclose
  have hbracket : close = ']' := by simpa using hclose
  subst hbracket
  rw [← h, List.takeWhile_append_dropWhile]

/-! ## Reading pieces -/

theorem readSteps_dotted (position : Nat) {name rest : List Char} (hne : name ≠ [])
    (hname : ∀ c ∈ name, isNameChar c = true) (hrest : ∀ c ∈ rest.head?, isNameChar c = false) :
    readSteps position ('.' :: (name ++ rest)) =
      (readSteps (position + 1 + name.length) rest).map (namedStep name :: ·) := by
  rw [readSteps, takeWhile_run hname hrest, dropWhile_run hname hrest,
    if_neg (by simpa using hne)]

theorem readSteps_bracketed (position : Nat) {body : List Char} (rest : List Char)
    {step : Segment} (hbody : ']' ∉ body) (hstep : selector? (Text.trim body) = some step) :
    readSteps position ('[' :: (body ++ ']' :: rest)) =
      (readSteps (position + body.length + 2) rest).map (step :: ·) := by
  have hrest : ∀ c ∈ (']' :: rest).head?, (c != ']') = false := by simp
  have hchars := ne_bracket_of_notMem hbody
  rw [readSteps]
  split
  · rename_i hnil
    rw [dropWhile_run hchars hrest] at hnil
    cases hnil
  · rename_i close after hafter
    rw [dropWhile_run hchars hrest] at hafter
    cases hafter
    rw [takeWhile_run hchars hrest, hstep]

/-- The reader takes the pieces of a grammatical text one by one. -/
theorem readSteps_pieces {pieces : List Piece} {path : Path}
    (h : List.Forall₂ Piece.Means pieces path) (position : Nat) :
    readSteps position (pieces.flatMap Piece.text) = .ok path := by
  induction h generalizing position with
  | nil => rw [List.flatMap_nil, readSteps]
  | @cons piece step pieces path hpiece _ ih =>
    rw [List.flatMap_cons]
    cases piece with
    | dotted name =>
      obtain ⟨hne, hname, rfl⟩ := (means_dotted_iff name step).mp hpiece
      rw [Piece.text, List.cons_append, readSteps_dotted position hne hname (head_pieces pieces),
        ih]
      rfl
    | bracketed body =>
      obtain ⟨hbody, hstep⟩ := (means_bracketed_iff body step).mp hpiece
      rw [Piece.text, List.cons_append, List.append_assoc, List.singleton_append,
        readSteps_bracketed position _ hbody hstep, ih]
      rfl

/-- What the reader takes is a sequence of pieces. -/
theorem exists_pieces_of_readSteps {position : Nat} {text : List Char} {path : Path}
    (h : readSteps position text = .ok path) :
    ∃ pieces, text = pieces.flatMap Piece.text ∧ List.Forall₂ Piece.Means pieces path := by
  fun_induction readSteps position text generalizing path with
  | case1 position =>
    cases h
    exact ⟨[], rfl, .nil⟩
  | case2 => cases h
  | case3 =>
    rename_i position rest name hname ih
    cases hrest : readSteps (position + 1 + name.length) (rest.dropWhile isNameChar) with
    | error defect =>
      rw [hrest] at h
      cases h
    | ok steps =>
      rw [hrest] at h
      cases h
      obtain ⟨pieces, htext, hmeans⟩ := ih hrest
      refine ⟨.dotted name :: pieces, ?_, .cons ((means_dotted_iff _ _).mpr ⟨?_, ?_, rfl⟩) hmeans⟩
      · rw [List.flatMap_cons, ← htext, Piece.text, List.cons_append,
          List.takeWhile_append_dropWhile]
      · simpa using hname
      · exact List.all_eq_true.mp List.all_takeWhile
  | case4 => cases h
  | case5 => cases h
  | case6 =>
    rename_i position rest body close after hclose step hstep ih
    cases hrest : readSteps (position + body.length + 2) after with
    | error defect =>
      rw [hrest] at h
      cases h
    | ok steps =>
      rw [hrest] at h
      cases h
      obtain ⟨pieces, htext, hmeans⟩ := ih hrest
      refine ⟨.bracketed body :: pieces, ?_,
        .cons ((means_bracketed_iff body step).mpr ⟨notMem_takeWhile rest, hstep⟩) hmeans⟩
      rw [List.flatMap_cons, ← htext, Piece.text, List.cons_append, List.append_assoc,
        List.singleton_append, ← eq_append_of_dropWhile hclose]
  | case7 => cases h

/-! ## One reading only -/

/-- Whether the text of a piece shows where the piece ends. -/
def Piece.Delimited : Piece → Prop
  | .dotted name => ∀ c ∈ name, isNameChar c = true
  | .bracketed body => ']' ∉ body

theorem Piece.Means.delimited {piece : Piece} {step : Segment} (h : piece.Means step) :
    piece.Delimited := by
  cases piece with
  | dotted name => exact ((means_dotted_iff name step).mp h).2.1
  | bracketed body => exact ((means_bracketed_iff body step).mp h).1

theorem exists_means_of_mem {pieces : List Piece} {path : Path}
    (h : List.Forall₂ Piece.Means pieces path) {piece : Piece} (hpiece : piece ∈ pieces) :
    ∃ step, piece.Means step := by
  induction h with
  | nil => cases hpiece
  | cons hmeans _ ih =>
    rcases List.mem_cons.mp hpiece with rfl | hrest
    · exact ⟨_, hmeans⟩
    · exact ih hrest

theorem delimited_of_means {pieces : List Piece} {path : Path}
    (h : List.Forall₂ Piece.Means pieces path) : ∀ piece ∈ pieces, piece.Delimited := by
  intro piece hpiece
  obtain ⟨step, hstep⟩ := exists_means_of_mem h hpiece
  exact hstep.delimited

/-- A text is cut into delimited pieces in one way only. -/
theorem pieces_unique {first second : List Piece} (h : ∀ piece ∈ first, piece.Delimited)
    (h' : ∀ piece ∈ second, piece.Delimited)
    (htext : first.flatMap Piece.text = second.flatMap Piece.text) : first = second := by
  induction first generalizing second with
  | nil =>
    cases second with
    | nil => rfl
    | cons piece => cases piece <;> simp [Piece.text] at htext
  | cons piece pieces ih =>
    cases second with
    | nil => cases piece <;> simp [Piece.text] at htext
    | cons piece' pieces' =>
      obtain ⟨hpiece, hrest⟩ := List.forall_mem_cons.mp h
      obtain ⟨hpiece', hrest'⟩ := List.forall_mem_cons.mp h'
      rw [List.flatMap_cons, List.flatMap_cons] at htext
      cases piece with
      | dotted name =>
        cases piece' with
        | bracketed body' => simp [Piece.text] at htext
        | dotted name' =>
          have hcut : name ++ pieces.flatMap Piece.text = name' ++ pieces'.flatMap Piece.text :=
            (List.cons.inj htext).2
          have hnames : name = name' := by
            rw [← takeWhile_run hpiece (head_pieces pieces), hcut,
              takeWhile_run hpiece' (head_pieces pieces')]
          subst hnames
          rw [ih hrest hrest' (List.append_cancel_left hcut)]
      | bracketed body =>
        cases piece' with
        | dotted name' => simp [Piece.text] at htext
        | bracketed body' =>
          have hcut : body ++ ']' :: pieces.flatMap Piece.text =
              body' ++ ']' :: pieces'.flatMap Piece.text := by
            simpa [Piece.text] using htext
          have hclose : ∀ pieces : List Piece,
              ∀ c ∈ (']' :: pieces.flatMap Piece.text).head?, (c != ']') = false := by simp
          have hbodies : body = body' := by
            rw [← takeWhile_run (ne_bracket_of_notMem hpiece) (hclose pieces), hcut,
              takeWhile_run (ne_bracket_of_notMem hpiece') (hclose pieces')]
          subst hbodies
          rw [ih hrest hrest' (List.cons.inj (List.append_cancel_left hcut)).2]

/-! ## Expressions -/

theorem ofText_of_ne_point {expression : String} {rest : List Char}
    (htext : expression.toList = '$' :: rest) (hne : expression ≠ "$.") :
    ofText expression = readSteps 1 rest := by
  have hrest : rest ≠ ['.'] := by
    rintro rfl
    exact hne (String.toList_injective htext)
  rw [ofText, htext]
  exact if_neg hrest

theorem ofText_of_reads {expression : String} {pieces : List Piece} {path : Path}
    (h : Reads expression pieces path) : ofText expression = .ok path := by
  cases h with
  | root hroot =>
    rcases hroot with rfl | rfl
    · rw [ofText]
      simp [readSteps]
    · rfl
  | steps hne htext hmeans =>
    rw [ofText, htext]
    simp only
    -- the first piece of a lone point would have an empty name
    have hpoint : pieces.flatMap Piece.text ≠ ['.'] := by
      intro hpoint
      cases hmeans with
      | nil => exact hne rfl
      | @cons piece step rest path hpiece _ =>
        cases piece with
        | dotted name =>
          have hname := ((means_dotted_iff name step).mp hpiece).1
          rw [List.flatMap_cons] at hpoint
          have hnil : name ++ rest.flatMap Piece.text = [] := (List.cons.inj hpoint).2
          exact hname (List.append_eq_nil_iff.mp hnil).1
        | bracketed body => simp [Piece.text] at hpoint
    rw [if_neg hpoint]
    exact readSteps_pieces hmeans 1

theorem exists_reads_of_ofText {expression : String} {path : Path}
    (h : ofText expression = .ok path) : ∃ pieces, Reads expression pieces path := by
  unfold ofText at h
  split at h
  · rename_i rest htext
    split at h
    · rename_i hpoint
      cases h
      exact ⟨[], .root (.inr (String.toList_injective (by rw [htext, hpoint]; rfl)))⟩
    · obtain ⟨pieces, rfl, hmeans⟩ := exists_pieces_of_readSteps h
      cases pieces with
      | nil =>
        cases hmeans
        exact ⟨[], .root (.inl (String.toList_injective (by rw [htext]; rfl)))⟩
      | cons piece pieces => exact ⟨piece :: pieces, .steps (by simp) htext hmeans⟩
  · cases h

theorem parse_eq_ok_iff (expression : String) (path : Path) :
    parse expression = .ok path ↔ ofText expression = .ok path := by
  unfold parse
  cases ofText expression with
  | ok steps => simp [Except.mapError]
  | error defect => simp [Except.mapError]

/-- The root and pieces behind it are an expression. -/
theorem parse_pieces {pieces : List Piece} {path : Path}
    (h : List.Forall₂ Piece.Means pieces path) :
    parse (String.ofList ('$' :: pieces.flatMap Piece.text)) = .ok path := by
  rw [parse_eq_ok_iff]
  cases h with
  | nil => exact ofText_of_reads (.root (.inl rfl))
  | cons hpiece hrest =>
    exact ofText_of_reads (.steps (by simp) String.toList_ofList (.cons hpiece hrest))

theorem Reads.unique {expression : String} {first second : List Piece} {path other : Path}
    (h : Reads expression first path) (h' : Reads expression second other) :
    first = second ∧ path = other := by
  have hpath : path = other :=
    Except.ok.inj ((ofText_of_reads h).symm.trans (ofText_of_reads h'))
  refine ⟨?_, hpath⟩
  subst hpath
  cases h with
  | root =>
    cases h' with
    | root => rfl
    | steps hne _ hmeans =>
      cases hmeans
      exact absurd rfl hne
  | steps hne htext hmeans =>
    cases h' with
    | root =>
      cases hmeans
      exact absurd rfl hne
    | steps hne' htext' hmeans' =>
      exact pieces_unique (delimited_of_means hmeans) (delimited_of_means hmeans')
        (List.cons.inj (htext.symm.trans htext')).2

/-- Reading an expression gives the steps of its pieces when it is cut into pieces that stand for
steps, and a refusal that names it when it cannot be cut so; there is one cut at most. -/
theorem parse_iff_reads (expression : String) :
    (∀ path, parse expression = .ok path ↔ ∃ pieces, Reads expression pieces path) ∧
    ((∃ defect, parse expression = .error ⟨expression, defect⟩) ↔
      ∀ pieces path, ¬ Reads expression pieces path) ∧
    (∀ first second path other, Reads expression first path → Reads expression second other →
      first = second ∧ path = other) := by
  have hok : ∀ path, parse expression = .ok path ↔ ∃ pieces, Reads expression pieces path := by
    intro path
    rw [parse_eq_ok_iff]
    exact ⟨exists_reads_of_ofText, fun ⟨_, h⟩ => ofText_of_reads h⟩
  refine ⟨hok, ⟨?_, ?_⟩, fun _ _ _ _ => Reads.unique⟩
  · rintro ⟨defect, hdefect⟩ pieces path hreads
    rw [(hok path).mpr ⟨pieces, hreads⟩] at hdefect
    cases hdefect
  · intro hnone
    cases htext : ofText expression with
    | error defect => exact ⟨defect, by rw [parse, htext]; rfl⟩
    | ok path =>
      obtain ⟨pieces, hreads⟩ := exists_reads_of_ofText htext
      exact absurd hreads (hnone pieces path)

end AuthBroker.Path
