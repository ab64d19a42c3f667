import AuthBroker.Proofs.Path.Grammar
import AuthBroker.Proofs.Text.Decimal

/-! # The first defect of an expression

An expression is read piece by piece for as long as one can be read: a name goes on to the next point,
opening bracket or the end, and a body to the first closing bracket (`Leads`, `ReadsTo`). What is left
where no piece can be read is nothing, or has one of four flaws, each of which shows in its first
characters (`Flaw`). The refusal of an expression names the flaw at the place where reading came to an
end, which everything before it is a path (`parse_names_first_defect`). -/

namespace AuthBroker.Path

/-! ## Reading for as long as possible -/

/-- A piece at the front of a text, the step that it stands for and what comes after it. -/
inductive Leads : List Char → Piece → Segment → List Char → Prop
  | dotted {name after : List Char} {step : Segment} : Piece.Means (.dotted name) step →
      (∀ c ∈ after.head?, c = '.' ∨ c = '[') →
      Leads ('.' :: (name ++ after)) (.dotted name) step after
  | bracketed {body after : List Char} {step : Segment} : Piece.Means (.bracketed body) step →
      Leads ('[' :: (body ++ ']' :: after)) (.bracketed body) step after

/-- The pieces of a text up to a rest at whose front there is no piece, with their steps. -/
inductive ReadsTo : List Char → List Piece → Path → List Char → Prop
  | stop {rest : List Char} : (∀ piece step after, ¬ Leads rest piece step after) →
      ReadsTo rest [] [] rest
  | next {text after rest : List Char} {piece : Piece} {step : Segment} {pieces : List Piece}
      {path : Path} : Leads text piece step after → ReadsTo after pieces path rest →
      ReadsTo text (piece :: pieces) (step :: path) rest

/-- What is wrong with a text at whose front there is no piece. The text stands at a position of the
whole expression. -/
inductive Flaw (position : Nat) : List Char → Defect → Prop
  | unexpected {c : Char} {rest : List Char} : c ≠ '.' → c ≠ '[' →
      Flaw position (c :: rest) (.unexpected c position)
  | emptyName {rest : List Char} : (∀ c ∈ rest.head?, c = '.' ∨ c = '[') →
      Flaw position ('.' :: rest) (.emptyName (position + 1))
  | unclosed {rest : List Char} : ']' ∉ rest →
      Flaw position ('[' :: rest) (.unclosedBracket position)
  | unsupported {body rest : List Char} : ']' ∉ body →
      (∀ step, ¬ Selects (Text.trim body) step) →
      Flaw position ('[' :: (body ++ ']' :: rest))
        (.unsupportedSelector (String.ofList (Text.trim body)))

theorem not_isNameChar_iff (c : Char) : isNameChar c = false ↔ c = '.' ∨ c = '[' := by
  rw [← Bool.not_eq_true, isNameChar_iff]
  tauto

section
variable {text rest after : List Char} {piece : Piece} {step : Segment} {pieces : List Piece}
  {path : Path}

theorem Leads.text_eq (h : Leads text piece step after) : text = piece.text ++ after := by
  cases h with
  | dotted => rfl
  | bracketed => simp [Piece.text]

theorem Leads.means (h : Leads text piece step after) : piece.Means step := by
  cases h with
  | dotted hmeans _ => exact hmeans
  | bracketed hmeans => exact hmeans

theorem Leads.length_lt (h : Leads text piece step after) : after.length < text.length := by
  cases h with
  | dotted =>
    simp only [List.length_cons, List.length_append]
    omega
  | bracketed =>
    simp only [List.length_cons, List.length_append]
    omega

theorem readSteps_of_leads (h : Leads text piece step after) (position : Nat) :
    readSteps position text =
      (readSteps (position + piece.text.length) after).map (step :: ·) := by
  cases h with
  | @dotted name _ _ hmeans hafter =>
    obtain ⟨hne, hname, rfl⟩ := (means_dotted_iff name step).mp hmeans
    have hplace : position + 1 + name.length = position + (Piece.dotted name).text.length := by
      rw [Piece.text, List.length_cons]
      omega
    rw [readSteps_dotted position hne hname fun c hc => (not_isNameChar_iff c).mpr (hafter c hc),
      hplace]
  | @bracketed body _ _ hmeans =>
    obtain ⟨hbody, hstep⟩ := (means_bracketed_iff body step).mp hmeans
    have hplace : position + body.length + 2 = position + (Piece.bracketed body).text.length := by
      simp only [Piece.text, List.length_cons, List.length_append, List.length_nil]
      omega
    rw [readSteps_bracketed position after hbody hstep, hplace]

/-- Every text is read to some rest. -/
theorem exists_readsTo (text : List Char) : ∃ pieces path rest, ReadsTo text pieces path rest := by
  induction hlength : text.length using Nat.strongRecOn generalizing text with
  | ind n ih =>
    by_cases hlead : ∃ piece step after, Leads text piece step after
    · obtain ⟨piece, step, after, hlead⟩ := hlead
      obtain ⟨pieces, path, rest, hreads⟩ := ih after.length (hlength ▸ hlead.length_lt) after rfl
      exact ⟨piece :: pieces, step :: path, rest, .next hlead hreads⟩
    · exact ⟨[], [], text, .stop fun piece step after h => hlead ⟨piece, step, after, h⟩⟩

theorem ReadsTo.text_eq (h : ReadsTo text pieces path rest) :
    text = pieces.flatMap Piece.text ++ rest := by
  induction h with
  | stop => rfl
  | next hlead _ ih => rw [hlead.text_eq, ih, List.flatMap_cons, List.append_assoc]

theorem ReadsTo.means (h : ReadsTo text pieces path rest) :
    List.Forall₂ Piece.Means pieces path := by
  induction h with
  | stop => exact .nil
  | next hlead _ ih => exact .cons hlead.means ih

theorem ReadsTo.not_leads (h : ReadsTo text pieces path rest) :
    ∀ piece step after, ¬ Leads rest piece step after := by
  induction h with
  | stop hstop => exact hstop
  | next _ _ ih => exact ih

theorem readSteps_of_readsTo (h : ReadsTo text pieces path rest) (position : Nat) :
    readSteps position text =
      (readSteps (position + (pieces.flatMap Piece.text).length) rest).map (path ++ ·) := by
  induction h generalizing position with
  | @stop rest =>
    rw [List.flatMap_nil, List.length_nil, Nat.add_zero]
    cases readSteps position rest with
    | error defect => rfl
    | ok steps => rfl
  | @next _ _ rest piece _ pieces _ hlead _ ih =>
    rw [readSteps_of_leads hlead, ih, List.flatMap_cons, List.length_append, Nat.add_assoc]
    cases readSteps (position + (piece.text.length + (pieces.flatMap Piece.text).length)) rest with
    | error defect => rfl
    | ok steps => rfl

/-! ## Where reading ends -/

theorem takeWhile_isNameChar_eq_nil_iff (rest : List Char) :
    rest.takeWhile isNameChar = [] ↔ ∀ c ∈ rest.head?, c = '.' ∨ c = '[' := by
  cases rest with
  | nil => simp
  | cons c rest => simp [List.takeWhile_cons, ← not_isNameChar_iff]

/-- Where no piece can be read there is a flaw, and the reader names it. -/
theorem exists_flaw (position : Nat) (hne : rest ≠ [])
    (hstop : ∀ piece step after, ¬ Leads rest piece step after) :
    ∃ defect, Flaw position rest defect ∧ readSteps position rest = .error defect := by
  fun_cases readSteps position rest with
  | case1 => exact absurd rfl hne
  | case2 rest name hname =>
    have hhead := (takeWhile_isNameChar_eq_nil_iff rest).mp (List.isEmpty_iff.mp hname)
    exact ⟨_, .emptyName hhead, rfl⟩
  | case3 rest name hname =>
    -- a name that is not empty would be a piece
    have hchars : ∀ c ∈ rest.takeWhile isNameChar, isNameChar c = true :=
      List.all_eq_true.mp List.all_takeWhile
    have hmeans : Piece.Means (.dotted (rest.takeWhile isNameChar))
        (namedStep (rest.takeWhile isNameChar)) :=
      (means_dotted_iff _ _).mpr ⟨fun hnil => hname (List.isEmpty_iff.mpr hnil), hchars, rfl⟩
    have hlead : Leads ('.' :: (rest.takeWhile isNameChar ++ rest.dropWhile isNameChar)) _ _ _ :=
      .dotted hmeans fun c hc => by
        have := List.head?_dropWhile_not isNameChar rest
        rw [Option.mem_def.mp hc] at this
        exact (not_isNameChar_iff c).mp (by simpa using this)
    rw [List.takeWhile_append_dropWhile] at hlead
    exact absurd hlead (hstop _ _ _)
  | case4 rest hclose =>
    refine ⟨_, .unclosed fun hmem => ?_, rfl⟩
    have hall := List.takeWhile_append_dropWhile (p := (· != ']')) (l := rest)
    rw [hclose, List.append_nil] at hall
    exact notMem_takeWhile rest (hall.symm ▸ hmem)
  | case5 rest body close after hclose hnone =>
    have hselects : ∀ step, ¬ Selects (Text.trim (rest.takeWhile (· != ']'))) step := by
      intro step hstep
      rw [(selector?_eq_some_iff _ step).mpr hstep] at hnone
      cases hnone
    rw [eq_append_of_dropWhile hclose]
    exact ⟨_, .unsupported (notMem_takeWhile rest) hselects, rfl⟩
  | case6 rest body close after hclose step hstep =>
    have hmeans : Piece.Means (.bracketed (rest.takeWhile (· != ']'))) step :=
      (means_bracketed_iff _ step).mpr ⟨notMem_takeWhile rest, hstep⟩
    have hlead : Leads _ _ _ after := Leads.bracketed hmeans
    rw [← eq_append_of_dropWhile hclose] at hlead
    exact absurd hlead (hstop _ _ _)
  | case7 c rest hpoint hbracket => exact ⟨_, .unexpected hpoint hbracket, rfl⟩

/-! ## Which flaw it is -/

theorem Flaw.eq_unexpected_iff {position : Nat} {defect : Defect} (h : Flaw position rest defect)
    (c : Char) :
    defect = .unexpected c position ↔ rest.head? = some c ∧ c ≠ '.' ∧ c ≠ '[' := by
  cases h with
  | unexpected hpoint hbracket =>
    simp only [Defect.unexpected.injEq, and_true, List.head?_cons, Option.some.injEq]
    constructor
    · rintro rfl
      exact ⟨rfl, hpoint, hbracket⟩
    · exact fun h => h.1
  | emptyName => simp +contextual [eq_comm]
  | unclosed => simp +contextual [eq_comm]
  | unsupported => simp +contextual [eq_comm]

theorem Flaw.eq_emptyName_iff {position : Nat} {defect : Defect} (h : Flaw position rest defect) :
    defect = .emptyName (position + 1) ↔
      rest.head? = some '.' ∧ ∀ c ∈ rest.tail.head?, c = '.' ∨ c = '[' := by
  cases h with
  | unexpected hpoint _ => simp [hpoint]
  | emptyName hhead => exact ⟨fun _ => ⟨rfl, hhead⟩, fun _ => rfl⟩
  | unclosed => simp
  | unsupported => simp

theorem Flaw.eq_unclosedBracket_iff {position : Nat} {defect : Defect}
    (h : Flaw position rest defect) :
    defect = .unclosedBracket position ↔ rest.head? = some '[' ∧ ']' ∉ rest.tail := by
  cases h with
  | unexpected _ hbracket => simp [hbracket]
  | emptyName => simp
  | unclosed hclose => exact ⟨fun _ => ⟨rfl, hclose⟩, fun _ => rfl⟩
  | unsupported => simp

theorem Flaw.eq_unsupportedSelector_iff {position : Nat} {defect : Defect}
    (h : Flaw position rest defect) (token : List Char) :
    defect = .unsupportedSelector (String.ofList token) ↔
      rest.head? = some '[' ∧ ∃ body after, rest.tail = body ++ ']' :: after ∧ ']' ∉ body ∧
        token = Text.trim body ∧ ∀ step, ¬ Selects token step := by
  cases h with
  | unexpected _ hbracket => simp [hbracket]
  | emptyName => simp
  | unclosed hclose =>
    simp only [reduceCtorEq, List.tail_cons, false_iff, not_and, not_exists]
    rintro - body after rfl
    simp at hclose
  | @unsupported body rest hbody hselects =>
    simp only [Defect.unsupportedSelector.injEq, String.ofList_inj, List.head?_cons,
      List.tail_cons, true_and]
    constructor
    · rintro rfl
      exact ⟨body, rest, rfl, hbody, rfl, hselects⟩
    · rintro ⟨other, after, heq, hother, rfl, -⟩
      -- both bodies go up to the first closing bracket
      have hclose : ∀ rest, ∀ c ∈ (']' :: rest).head?, (c != ']') = false := by simp
      rw [← takeWhile_run (ne_bracket_of_notMem hbody) (hclose rest), heq,
        takeWhile_run (ne_bracket_of_notMem hother) (hclose after)]

end

/-! ## Reasons -/

/-- The first characters of a reason, which tell the kinds of defects apart. -/
def Defect.mark : Defect → List Char
  | .noRoot => ['m', 'u', 's']
  | .emptyName _ => ['e', 'm', 'p']
  | .unclosedBracket _ => ['u', 'n', 'c']
  | .unsupportedSelector _ => ['u', 'n', 's']
  | .unexpected _ _ => ['u', 'n', 'e']

theorem Defect.take_message (defect : Defect) : defect.message.toList.take 3 = defect.mark := by
  cases defect with
  | noRoot => rfl
  | emptyName n =>
    change ("empty name at position " ++ toString n).toList.take 3 = _
    rw [String.toList_append]
    rfl
  | unclosedBracket n =>
    change ("unclosed '[' at position " ++ toString n).toList.take 3 = _
    rw [String.toList_append]
    rfl
  | unsupportedSelector s =>
    change ("unsupported selector [" ++ s ++ "]").toList.take 3 = _
    rw [String.append_assoc, String.toList_append]
    rfl
  | unexpected c n =>
    change ("unexpected '" ++ String.singleton c ++ "' at position " ++ toString n).toList.take 3 = _
    rw [String.append_assoc, String.append_assoc, String.toList_append]
    rfl

/-- A reason tells its defect. -/
theorem Defect.message_injective : Function.Injective Defect.message := by
  intro first second h
  have hmark : first.mark = second.mark := by rw [← take_message, ← take_message, h]
  cases first with
  | noRoot =>
    cases second with
    | noRoot => rfl
    | _ => cases hmark
  | emptyName n =>
    cases second with
    | emptyName m => rw [Text.toString_injective ((String.append_right_inj _).mp h)]
    | _ => cases hmark
  | unclosedBracket n =>
    cases second with
    | unclosedBracket m => rw [Text.toString_injective ((String.append_right_inj _).mp h)]
    | _ => cases hmark
  | unsupportedSelector s =>
    cases second with
    | unsupportedSelector t =>
      have hselector := (String.append_left_inj _).mp h
      rw [(String.append_right_inj _).mp hselector]
    | _ => cases hmark
  | unexpected c n =>
    cases second with
    | unexpected d m =>
      change "unexpected '" ++ String.singleton c ++ "' at position " ++ toString n =
        "unexpected '" ++ String.singleton d ++ "' at position " ++ toString m at h
      rw [String.append_assoc, String.append_assoc, String.append_assoc, String.append_assoc,
        String.append_right_inj] at h
      have hlist := congrArg String.toList h
      simp only [String.toList_append, String.toList_singleton, List.singleton_append,
        List.cons.injEq, List.append_right_inj] at hlist
      obtain ⟨rfl, hnumber⟩ := hlist
      rw [Text.toString_injective (String.toList_injective hnumber)]
    | _ => cases hmark

/-! ## Refusals -/

section
variable {expression : String} {refusal : Invalid} {text rest : List Char} {pieces : List Piece}
  {path : Path}

theorem ofText_of_parse (h : parse expression = .error refusal) :
    refusal.expression = expression ∧ ofText expression = .error refusal.defect := by
  unfold parse at h
  cases htext : ofText expression with
  | ok steps =>
    rw [htext] at h
    cases h
  | error defect =>
    rw [htext] at h
    cases h
    exact ⟨rfl, rfl⟩

/-- Behind the root a refused expression is read up to a flaw, and the refusal names it. -/
theorem flaw_of_parse (h : parse expression = .error refusal)
    (htext : expression.toList = '$' :: text) (hreads : ReadsTo text pieces path rest) :
    rest ≠ [] ∧ Flaw (1 + (pieces.flatMap Piece.text).length) rest refusal.defect := by
  have hpoint : expression ≠ "$." := by
    rintro rfl
    cases h
  have herror := (ofText_of_parse h).2
  rw [ofText_of_ne_point htext hpoint, readSteps_of_readsTo hreads] at herror
  have hne : rest ≠ [] := by
    rintro rfl
    rw [readSteps] at herror
    cases herror
  obtain ⟨defect, hflaw, hdefect⟩ :=
    exists_flaw (1 + (pieces.flatMap Piece.text).length) hne hreads.not_leads
  rw [hdefect] at herror
  cases herror
  exact ⟨hne, hflaw⟩

theorem defect_eq_noRoot_iff (h : parse expression = .error refusal) :
    refusal.defect = .noRoot ↔ expression.toList.head? ≠ some '$' := by
  have herror := (ofText_of_parse h).2
  constructor
  · intro hdefect hroot
    obtain ⟨text, htext⟩ := List.head?_eq_some_iff.mp hroot
    obtain ⟨pieces, path, rest, hreads⟩ := exists_readsTo text
    have hflaw := (flaw_of_parse h htext hreads).2
    rw [hdefect] at hflaw
    cases hflaw
  · intro hroot
    unfold ofText at herror
    split at herror
    · rename_i htext
      rw [htext] at hroot
      exact absurd rfl hroot
    · exact (Except.error.inj herror).symm

end

/-- The refusal of an expression names its first defect. There is no root, or, with `i` the place
behind the root and the pieces that can be read, the expression goes on at `i`, what stands before
`i` is a path, and what stands at `i` decides the reason. -/
theorem parse_names_first_defect (expression : String) (refusal : Invalid)
    (h : parse expression = .error refusal) :
    refusal.expression = expression ∧
    (refusal.defect.message = "must start with '$'" ↔ expression.toList.head? ≠ some '$') ∧
    ∀ text, expression.toList = '$' :: text →
      (∃ pieces path rest, ReadsTo text pieces path rest) ∧
      ∀ pieces path rest, ReadsTo text pieces path rest →
        let p := expression.toList
        let i := 1 + (pieces.flatMap Piece.text).length
        i < p.length ∧ parse (String.ofList (p.take i)) = .ok path ∧
        (∀ c, refusal.defect.message =
            "unexpected '" ++ String.singleton c ++ "' at position " ++ toString i ↔
          p[i]? = some c ∧ c ≠ '.' ∧ c ≠ '[') ∧
        (refusal.defect.message = "empty name at position " ++ toString (i + 1) ↔
          p[i]? = some '.' ∧ ∀ c ∈ p[i + 1]?, c = '.' ∨ c = '[') ∧
        (refusal.defect.message = "unclosed '[' at position " ++ toString i ↔
          p[i]? = some '[' ∧ ']' ∉ p.drop (i + 1)) ∧
        (∀ token, refusal.defect.message =
            "unsupported selector [" ++ String.ofList token ++ "]" ↔
          p[i]? = some '[' ∧ ∃ body after, p.drop (i + 1) = body ++ ']' :: after ∧ ']' ∉ body ∧
            token = Text.trim body ∧ ∀ step, ¬ Selects token step) := by
  have hmessage : ∀ defect, refusal.defect.message = defect.message ↔ refusal.defect = defect :=
    fun defect => Defect.message_injective.eq_iff
  refine ⟨(ofText_of_parse h).1, ?_, ?_⟩
  · exact (hmessage .noRoot).trans (defect_eq_noRoot_iff h)
  · intro text htext
    refine ⟨exists_readsTo text, ?_⟩
    intro pieces path rest hreads p i
    obtain ⟨hne, hflaw⟩ := flaw_of_parse h htext hreads
    have hsplit : p = ('$' :: pieces.flatMap Piece.text) ++ rest := by
      rw [List.cons_append, ← hreads.text_eq]
      exact htext
    have hi : ('$' :: pieces.flatMap Piece.text).length = i := Nat.add_comm _ 1
    have hdrop : p.drop i = rest := by rw [hsplit, ← hi, List.drop_left]
    have htail : p.drop (i + 1) = rest.tail := by rw [← List.tail_drop, hdrop]
    have hhead : p[i]? = rest.head? := by rw [← hdrop, List.head?_drop]
    have hnext : p[i + 1]? = rest.tail.head? := by rw [← htail, List.head?_drop]
    refine ⟨?_, ?_, ?_, ?_, ?_, ?_⟩
    · have hpos := List.length_pos_of_ne_nil hne
      rw [hsplit, List.length_append, hi]
      omega
    · rw [hsplit, ← hi, List.take_left]
      exact parse_pieces hreads.means
    · intro c
      rw [hhead]
      exact (hmessage (.unexpected c i)).trans (hflaw.eq_unexpected_iff c)
    · rw [hhead, hnext]
      exact (hmessage (.emptyName (i + 1))).trans hflaw.eq_emptyName_iff
    · rw [hhead, htail]
      exact (hmessage (.unclosedBracket i)).trans hflaw.eq_unclosedBracket_iff
    · intro token
      rw [hhead, htail]
      exact (hmessage (.unsupportedSelector (String.ofList token))).trans
        (hflaw.eq_unsupportedSelector_iff token)

/-- A name of one character beyond the first plane, a quoted key between blanks, and two points. -/
theorem parse_names_first_defect_clef :
    parse "$.𝄞[ 'x' ]..b" = .error ⟨"$.𝄞[ 'x' ]..b", .emptyName 11⟩ ∧
    ReadsTo ".𝄞[ 'x' ]..b".toList [.dotted ['𝄞'], .bracketed " 'x' ".toList]
      [.key "𝄞", .key "x"] "..b".toList ∧
    parse "$.𝄞[ 'x' ]" = .ok [.key "𝄞", .key "x"] ∧
    (Defect.emptyName 11).message = "empty name at position 11" := by
  have hparse : parse "$.𝄞[ 'x' ]..b" = .error ⟨"$.𝄞[ 'x' ]..b", .emptyName 11⟩ := by
    decide +kernel
  have hname : Leads ".𝄞[ 'x' ]..b".toList (.dotted ['𝄞']) (.key "𝄞") "[ 'x' ]..b".toList :=
    @Leads.dotted ['𝄞'] _ _ (.name (by simp) (by simp) (by simp))
      fun c hc => .inr (Option.some.inj hc).symm
  have hkey : Leads "[ 'x' ]..b".toList (.bracketed " 'x' ".toList) (.key "x") "..b".toList :=
    @Leads.bracketed " 'x' ".toList _ _
      (.selector (by decide) (@Selects.quoted '\'' ['x'] (.inl rfl)))
  have hstop : ∀ piece step after, ¬ Leads "..b".toList piece step after := by
    intro piece step after hlead
    have htext := hlead.text_eq
    cases piece with
    | bracketed body => simp [Piece.text] at htext
    | dotted name =>
      -- the name would begin with the second point
      obtain ⟨hne, hname, -⟩ := (means_dotted_iff name step).mp hlead.means
      cases name with
      | nil => exact hne rfl
      | cons c rest =>
        have hlist : ['.', '.', 'b'] = '.' :: c :: (rest ++ after) := htext
        obtain ⟨rfl, -⟩ := List.cons.inj (List.cons.inj hlist).2
        have hpoint : isNameChar '.' = false := (not_isNameChar_iff '.').mpr (.inl rfl)
        exact Bool.eq_false_iff.mp hpoint (hname _ List.mem_cons_self)
  have hreads := ReadsTo.next hname (.next hkey (.stop hstop))
  obtain ⟨-, hbefore, -, hempty, -, -⟩ :=
    ((parse_names_first_defect _ _ hparse).2.2 _ rfl).2 _ _ _ hreads
  exact ⟨hparse, hreads, hbefore, hempty.mpr ⟨rfl, fun c hc => .inl (Option.some.inj hc).symm⟩⟩

end AuthBroker.Path
