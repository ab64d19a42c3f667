import AuthBroker.Proofs.Json.Reader
import Mathlib.Data.List.TakeWhile

/-! # Reading well-formed texts

The reader reads every well-formed text as the document that the text denotes (`read?_of_denotes`), so
a text denotes at most one document (`Denotes.unique`). -/

namespace AuthBroker.Json

open Binary64 (takeDigits readExponent?)

/-! ## What follows a value -/

/-- The text does not go on with a character that a number may have. -/
def Ends (rest : List Char) : Prop :=
  ∀ c, rest.head? = some c → isNumeric c = false

theorem ends_of_cons {c : Char} {rest : List Char} (h : isNumeric c = false) :
    Ends (c :: rest) := by
  rintro _ ⟨⟩
  exact h

theorem isNumeric_of_isBlank {c : Char} (h : isBlank c = true) : isNumeric c = false := by
  simp only [isBlank, Bool.or_eq_true, beq_iff_eq] at h
  rcases h with ((rfl | rfl) | rfl) | rfl <;> decide

theorem Ends.blanks_append {blanks rest : List Char} (h : Ends rest)
    (hblanks : blanks.all isBlank = true) : Ends (blanks ++ rest) := by
  cases blanks with
  | nil => exact h
  | cons c more =>
    rw [List.all_cons, Bool.and_eq_true] at hblanks
    exact ends_of_cons (isNumeric_of_isBlank hblanks.1)

/-- A run that what follows does not go on. -/
theorem span_append {p : Char → Bool} {front rest : List Char} (hfront : ∀ c ∈ front, p c = true)
    (hrest : ∀ c, rest.head? = some c → p c = false) :
    (front ++ rest).takeWhile p = front ∧ (front ++ rest).dropWhile p = rest := by
  rw [List.takeWhile_append_of_pos hfront, List.dropWhile_append_of_pos hfront]
  cases rest with
  | nil => simp
  | cons c more =>
    have hc : p c = false := hrest c rfl
    simp [hc]

theorem skipBlanks_append {blanks : List Char} (h : blanks.all isBlank = true) (rest : List Char) :
    skipBlanks (blanks ++ rest) = skipBlanks rest :=
  List.dropWhile_append_of_pos (List.all_eq_true.mp h)

theorem skipBlanks_of_cons {c : Char} {rest : List Char} (h : isBlank c = false) :
    skipBlanks (c :: rest) = c :: rest :=
  List.dropWhile_cons_of_neg (by simp [h])

theorem skipBlanks_append_of_cons {cs more : List Char} {c : Char}
    (h : skipBlanks cs = c :: more) (rest : List Char) :
    skipBlanks (cs ++ rest) = c :: (more ++ rest) := by
  have hsome : (cs.dropWhile isBlank).isEmpty = false := by
    rw [show cs.dropWhile isBlank = c :: more from h]
    rfl
  rw [skipBlanks, List.dropWhile_append, hsome]
  rw [skipBlanks] at h
  simp [h]

/-! ## Numbers -/

theorem takeDigits_append {digits rest : List Char} (h : ∀ c ∈ digits, c.isDigit = true)
    (hrest : ∀ c, rest.head? = some c → c.isDigit = false) :
    takeDigits (digits ++ rest) = (digits, rest) := by
  obtain ⟨htake, hdrop⟩ := span_append h hrest
  rw [takeDigits, htake, hdrop]

theorem mem_exponentMarks {c : Char} : c ∈ exponentMarks ↔ c = 'e' ∨ c = 'E' := by
  simp [exponentMarks]

theorem not_isDigit_of_mem_exponentMarks {c : Char} (h : c ∈ exponentMarks) :
    c.isDigit = false := by
  rcases mem_exponentMarks.mp h with rfl | rfl <;> rfl

theorem IsExponent.head {exponent : List Char} {power : Int} (h : IsExponent exponent power) :
    ∀ c, exponent.head? = some c → c ∈ exponentMarks := by
  cases h with
  | absent => simp
  | unsigned hmark _ => simpa using hmark
  | plus hmark _ => simpa using hmark
  | minus hmark _ => simpa using hmark

theorem readWhole?_append {whole rest : List Char} (h : IsWhole whole)
    (hrest : ∀ c, rest.head? = some c → c.isDigit = false) :
    readWhole? (whole ++ rest) = some (whole, rest) := by
  have hempty : whole.isEmpty = false := by simpa using h.ne_nil
  have hfront : (whole.head? == some '0' && whole != ['0']) = false := by
    simpa using h.front
  simp only [readWhole?, takeDigits_append h.isDigit hrest, hempty, hfront, Bool.or_self,
    Bool.false_eq_true, if_false]

theorem readFraction?_append {point fraction exponent : List Char} {power : Int}
    (hpoint : IsFraction point fraction) (hexponent : IsExponent exponent power) :
    readFraction? (point ++ exponent) = some (fraction, exponent) := by
  have hdigit : ∀ c, exponent.head? = some c → c.isDigit = false := fun c hc =>
    not_isDigit_of_mem_exponentMarks (hexponent.head c hc)
  cases hpoint with
  | absent =>
    rw [List.nil_append, readFraction?]
    rintro cs rfl
    exact absurd (hexponent.head '.' rfl) (by decide)
  | present hdigits =>
    have hempty : fraction.isEmpty = false := by simpa using hdigits.ne_nil
    simp only [List.cons_append, readFraction?, takeDigits_append hdigits.isDigit hdigit, hempty,
      Bool.false_eq_true, if_false]

theorem IsDigits.all {digits : List Char} (h : IsDigits digits) :
    (digits.isEmpty || !digits.all Char.isDigit) = false := by
  have hall : digits.all Char.isDigit = true := List.all_eq_true.mpr h.isDigit
  simp [hall, h.ne_nil]

theorem IsDigits.front_ne {digits rest : List Char} {c : Char} (h : IsDigits digits)
    (hc : c.isDigit = false) : digits ≠ c :: rest := by
  rintro rfl
  have := h.isDigit c List.mem_cons_self
  simp [hc] at this

theorem readPower?_of_isExponent {exponent : List Char} {power : Int}
    (h : IsExponent exponent power) : readPower? exponent = some power := by
  cases h with
  | absent => rfl
  | unsigned hmark hdigits =>
    rw [readPower?, if_pos (by simpa using hmark), readExponent?]
    · simp [hdigits.all]
    · exact fun rest => hdigits.front_ne (by decide)
    · exact fun rest => hdigits.front_ne (by decide)
  | plus hmark hdigits =>
    rw [readPower?, if_pos (by simpa using hmark), readExponent?]
    simp [hdigits.all]
  | minus hmark hdigits =>
    rw [readPower?, if_pos (by simpa using hmark), readExponent?]
    simp [hdigits.all]

theorem readNumber?_of_unsigned {negative : Bool} {cs : List Char} {d : Document}
    (hfront : ∀ rest, cs ≠ '-' :: rest) (h : readUnsigned? negative cs = some d) :
    readNumber? (sign negative ++ cs) = some d := by
  cases negative with
  | true => exact h
  | false =>
    rw [show sign false ++ cs = cs from rfl, readNumber?]
    · exact h
    · exact hfront

theorem IsWhole.append_ne {whole : List Char} {c : Char} (h : IsWhole whole)
    (hc : c.isDigit = false) (cs rest : List Char) : whole ++ cs ≠ c :: rest := by
  cases whole with
  | nil => exact absurd rfl h.ne_nil
  | cons digit more =>
    rintro heq
    obtain ⟨rfl, -⟩ := List.cons.inj heq
    have := h.isDigit digit List.mem_cons_self
    simp [hc] at this

/-- The part of a number after the digits in front of the point does not start with a digit. -/
theorem IsFraction.head_append {point fraction exponent : List Char} {power : Int}
    (hpoint : IsFraction point fraction) (hexponent : IsExponent exponent power) :
    ∀ c, (point ++ exponent).head? = some c → c.isDigit = false := by
  intro c hc
  cases hpoint with
  | absent => exact not_isDigit_of_mem_exponentMarks (hexponent.head c hc)
  | present =>
    obtain rfl : '.' = c := by simpa using hc
    rfl

theorem readNumber?_of_isNumber {token : List Char} {d : Document} (h : IsNumber token d) :
    readNumber? token = some d := by
  cases h with
  | @integer negative whole hwhole =>
    apply readNumber?_of_unsigned
    · intro rest
      have hne : whole ++ [] ≠ '-' :: rest := hwhole.append_ne (by decide) [] rest
      simpa using hne
    · have hread : readWhole? (whole ++ []) = some (whole, []) := readWhole?_append hwhole (by simp)
      rw [List.append_nil] at hread
      simp [readUnsigned?, hread]
  | @nearest negative whole point fraction exponent power hwhole hpoint hexponent hne =>
    apply readNumber?_of_unsigned
    · exact hwhole.append_ne (by decide) _
    · have hread := readWhole?_append hwhole (hpoint.head_append hexponent)
      have hempty : (point ++ exponent).isEmpty = false := by simpa using hne
      simp only [readUnsigned?, hread, hempty, readFraction?_append hpoint hexponent,
        readPower?_of_isExponent hexponent, Option.bind_eq_bind, Option.bind_some,
        Bool.false_eq_true, if_false]
      rfl

/-! ## The characters of a number -/

theorem isNumeric_of_isDigit {c : Char} (h : c.isDigit = true) : isNumeric c = true := by
  rw [isNumeric, h, Bool.true_or]

theorem IsDigits.numeric {digits : List Char} (h : IsDigits digits) :
    ∀ c ∈ digits, isNumeric c = true := fun c hc =>
  isNumeric_of_isDigit (h.isDigit c hc)

theorem isNumeric_of_mem_exponentMarks {c : Char} (h : c ∈ exponentMarks) : isNumeric c = true := by
  rcases mem_exponentMarks.mp h with rfl | rfl <;> rfl

theorem IsExponent.numeric {exponent : List Char} {power : Int} (h : IsExponent exponent power) :
    ∀ c ∈ exponent, isNumeric c = true := by
  cases h with
  | absent => simp
  | unsigned hmark hdigits =>
    exact List.forall_mem_cons.mpr ⟨isNumeric_of_mem_exponentMarks hmark, hdigits.numeric⟩
  | plus hmark hdigits =>
    exact List.forall_mem_cons.mpr ⟨isNumeric_of_mem_exponentMarks hmark,
      List.forall_mem_cons.mpr ⟨rfl, hdigits.numeric⟩⟩
  | minus hmark hdigits =>
    exact List.forall_mem_cons.mpr ⟨isNumeric_of_mem_exponentMarks hmark,
      List.forall_mem_cons.mpr ⟨rfl, hdigits.numeric⟩⟩

theorem IsFraction.numeric {point fraction : List Char} (h : IsFraction point fraction) :
    ∀ c ∈ point, isNumeric c = true := by
  cases h with
  | absent => simp
  | present hdigits => exact List.forall_mem_cons.mpr ⟨rfl, hdigits.numeric⟩

theorem isNumeric_of_mem_sign {negative : Bool} : ∀ c ∈ sign negative, isNumeric c = true := by
  cases negative with
  | false => exact List.forall_mem_nil _
  | true => exact List.forall_mem_singleton.mpr rfl

theorem IsNumber.numeric {token : List Char} {d : Document} (h : IsNumber token d) :
    ∀ c ∈ token, isNumeric c = true := by
  cases h with
  | integer hwhole =>
    exact List.forall_mem_append.mpr ⟨isNumeric_of_mem_sign, hwhole.toIsDigits.numeric⟩
  | nearest hwhole hpoint hexponent _ =>
    exact List.forall_mem_append.mpr ⟨isNumeric_of_mem_sign,
      List.forall_mem_append.mpr ⟨hwhole.toIsDigits.numeric,
        List.forall_mem_append.mpr ⟨hpoint.numeric, hexponent.numeric⟩⟩⟩

theorem IsNumber.ne_nil {token : List Char} {d : Document} (h : IsNumber token d) : token ≠ [] := by
  cases h with
  | integer hwhole => simp [hwhole.ne_nil]
  | nearest hwhole => simp [hwhole.ne_nil]

/-! ## Texts in quotes -/

theorem codeUnit?_length {digits : List Char} {unit : Nat} (h : codeUnit? digits = some unit) :
    digits.length = 4 := by
  unfold codeUnit? at h
  split at h
  · rfl
  · cases h

theorem readUnit?_append {digits : List Char} {unit : Nat} (h : codeUnit? digits = some unit)
    (rest : List Char) : readUnit? (digits ++ rest) = some (unit, rest) := by
  have hlength := codeUnit?_length h
  rw [readUnit?, List.take_left' hlength, List.drop_left' hlength, h]
  rfl

/-- No character is a surrogate. -/
theorem isHigh_toNat (c : Char) : isHigh c.toNat = false ∧ isLow c.toNat = false := by
  have hvalid : c.toNat < 0xd800 ∨ 0xdfff < c.toNat ∧ c.toNat < 0x110000 := c.valid
  simp only [isHigh, isLow, Bool.and_eq_false_iff, decide_eq_false_iff_not]
  omega

theorem lookup_escapes {letter c : Char} (h : (letter, c) ∈ escapes) :
    letter ≠ 'u' ∧ escapes.lookup letter = some c := by
  have hall : ∀ entry ∈ escapes, entry.1 ≠ 'u' ∧ escapes.lookup entry.1 = some entry.2 := by decide
  exact hall _ h

theorem readChar?_of_spells {spelling : List Char} {c : Char} (h : Spells spelling c)
    (rest : List Char) : readChar? (spelling ++ rest) = some (c, rest) := by
  cases h with
  | plain hplain =>
    have hne : c ≠ '\\' := by
      rintro rfl
      cases hplain
    rw [List.singleton_append, readChar?]
    · exact if_pos hplain
    · intro _ hc
      exact absurd hc hne
    · intro _ _ hc
      exact absurd hc hne
  | escape hmem =>
    obtain ⟨hletter, hlookup⟩ := lookup_escapes hmem
    rw [List.cons_append, List.singleton_append, readChar?, hlookup]
    · rfl
    · intro hu
      exact absurd hu hletter
  | unit hunit =>
    obtain ⟨hhigh, hlow⟩ := isHigh_toNat c
    have hread := readUnit?_append hunit rest
    simp [readChar?, hread, hhigh, hlow, Char.ofNat_toNat]
  | @pair first second high low _ hfirst hsecond hhigh hlow hc =>
    have hread := readUnit?_append hfirst ('\\' :: 'u' :: (second ++ rest))
    have hread' := readUnit?_append hsecond rest
    simp [readChar?, hread, hhigh, readLow?, hread', hlow, ← hc, Char.ofNat_toNat]

/-- No spelling starts with a quote, so that a quote ends the text. -/
theorem Spells.front {spelling : List Char} {c : Char} (h : Spells spelling c) :
    ∃ first more, spelling = first :: more ∧ first ≠ '"' := by
  cases h with
  | plain hplain =>
    refine ⟨_, _, rfl, ?_⟩
    rintro rfl
    cases hplain
  | escape => exact ⟨_, _, rfl, by decide⟩
  | unit => exact ⟨_, _, rfl, by decide⟩
  | pair => exact ⟨_, _, rfl, by decide⟩

theorem SpellsAll.length_le {body cs : List Char} (h : SpellsAll body cs) :
    cs.length ≤ body.length := by
  induction h with
  | nil => simp
  | cons hspells _ ih =>
    obtain ⟨first, more, rfl, -⟩ := hspells.front
    simp only [List.length_append, List.length_cons]
    omega

theorem readChars?_of_spellsAll {body cs : List Char} (h : SpellsAll body cs) (rest : List Char) :
    ∀ fuel, cs.length < fuel → readChars? fuel (body ++ '"' :: rest) = some (cs, rest) := by
  induction h with
  | nil =>
    intro fuel hfuel
    obtain ⟨n, rfl⟩ := Nat.exists_eq_add_one_of_ne_zero (by omega : fuel ≠ 0)
    rfl
  | @cons c spelling body cs hspells _ ih =>
    intro fuel hfuel
    obtain ⟨n, rfl⟩ := Nat.exists_eq_add_one_of_ne_zero (by omega : fuel ≠ 0)
    have hmore := ih n (by simpa using hfuel)
    have hread := readChar?_of_spells hspells (body ++ '"' :: rest)
    obtain ⟨first, more, hfirst, hne⟩ := hspells.front
    rw [List.append_assoc, readChars?, hread]
    · simp [hmore]
    · rw [hfirst]
      intro _ heq
      exact hne (List.cons.inj heq).1

/-! ## Elements -/

theorem length_le_commaSeparated {parts : List (List Char)} {part : List Char} (h : part ∈ parts) :
    part.length ≤ (commaSeparated parts).length := by
  induction parts with
  | nil => cases h
  | cons first rest ih =>
    cases rest with
    | nil =>
      obtain rfl : part = first := by simpa using h
      rw [commaSeparated_singleton]
    | cons next rest =>
      rw [commaSeparated_cons_cons, List.length_append, List.length_cons]
      rcases List.mem_cons.mp h with rfl | hrest
      · omega
      · have := ih hrest
        omega

theorem length_commaSeparated (parts : List (List Char)) :
    parts.length ≤ (commaSeparated parts).length + 1 := by
  induction parts with
  | nil => simp
  | cons first rest ih =>
    cases rest with
    | nil => simp
    | cons next rest =>
      rw [commaSeparated_cons_cons, List.length_append]
      simp only [List.length_cons] at ih ⊢
      omega

theorem exists_skipBlanks_commaSeparated {part more : List Char} {c : Char}
    (h : skipBlanks part = c :: more) (parts : List (List Char)) (rest : List Char) :
    ∃ others, skipBlanks (commaSeparated (part :: parts) ++ rest) = c :: others := by
  cases parts with
  | nil =>
    rw [commaSeparated_singleton]
    exact ⟨_, skipBlanks_append_of_cons h rest⟩
  | cons next parts =>
    rw [commaSeparated_cons_cons, List.append_assoc]
    exact ⟨_, skipBlanks_append_of_cons h _⟩

/-- What ends a list or a table. -/
def closers : List Char := [']', '\x7d']

theorem closers_spec {close : Char} (h : close ∈ closers) :
    isNumeric close = false ∧ isBlank close = false ∧ ',' ≠ close := by
  have hcases : close = ']' ∨ close = '\x7d' := by simpa [closers] using h
  rcases hcases with rfl | rfl <;> decide

section
variable {α β : Type} {one : List Char → Option (α × List Char)} {close : Char} {items : List β}
  {text : β → List Char} {value : β → α}

theorem readSequence_commaSeparated (hclose : close ∈ closers) (hne : items ≠ [])
    (hone : ∀ item ∈ items, ∀ rest, Ends rest →
      one (text item ++ rest) = some (value item, skipBlanks rest)) (rest : List Char) :
    ∀ fuel, items.length ≤ fuel →
      readSequence one close fuel (commaSeparated (items.map text) ++ close :: rest) =
        some (items.map value, rest) := by
  obtain ⟨hnumeric, hblank, hcomma⟩ := closers_spec hclose
  induction items with
  | nil => exact absurd rfl hne
  | cons item items ih =>
    intro fuel hfuel
    obtain ⟨n, rfl⟩ := Nat.exists_eq_add_one_of_ne_zero (show fuel ≠ 0 by simp at hfuel; omega)
    cases items with
    | nil =>
      have hread := hone item List.mem_cons_self (close :: rest) (ends_of_cons hnumeric)
      rw [skipBlanks_of_cons hblank] at hread
      simp [readSequence, commaSeparated_singleton, hread]
    | cons next items =>
      have hread := hone item List.mem_cons_self
        (',' :: (commaSeparated ((next :: items).map text) ++ close :: rest)) (ends_of_cons rfl)
      rw [skipBlanks_of_cons rfl] at hread
      have hmore := ih (by simp) (fun other hother => hone other (List.mem_cons_of_mem _ hother)) n
        (by simpa using hfuel)
      rw [List.map_cons, List.map_cons, commaSeparated_cons_cons, ← List.map_cons,
        List.append_assoc, List.cons_append, readSequence, hread]
      simp only [Option.bind_eq_bind, Option.bind_some, if_neg hcomma, if_true, hmore]
      rfl

theorem readElements_blanks {blanks : List Char} (hblanks : blanks.all isBlank = true)
    (hclose : close ∈ closers) (rest : List Char) :
    readElements one close (blanks ++ close :: rest) = some ([], rest) := by
  obtain ⟨-, hblank, -⟩ := closers_spec hclose
  rw [readElements, skipBlanks_append hblanks, skipBlanks_of_cons hblank]
  exact if_pos rfl

theorem readElements_commaSeparated (hclose : close ∈ closers) (hne : items ≠ [])
    (hfront : ∀ item ∈ items, ∃ c more, skipBlanks (text item) = c :: more ∧ c ∉ closers)
    (hone : ∀ item ∈ items, ∀ rest, Ends rest →
      one (text item ++ rest) = some (value item, skipBlanks rest)) (rest : List Char) :
    readElements one close (commaSeparated (items.map text) ++ close :: rest) =
      some (items.map value, rest) := by
  have hfirst : ∃ c more,
      skipBlanks (commaSeparated (items.map text) ++ close :: rest) = c :: more ∧ c ≠ close := by
    cases items with
    | nil => exact absurd rfl hne
    | cons item items =>
      obtain ⟨c, more, hc, hmem⟩ := hfront item List.mem_cons_self
      obtain ⟨others, hskip⟩ :=
        exists_skipBlanks_commaSeparated hc (items.map text) (close :: rest)
      refine ⟨c, others, hskip, ?_⟩
      rintro rfl
      exact hmem hclose
  obtain ⟨c, more, hskip, hcclose⟩ := hfirst
  have hlength : items.length ≤ (commaSeparated (items.map text) ++ close :: rest).length := by
    have := length_commaSeparated (items.map text)
    simp only [List.length_append, List.length_cons, List.length_map] at *
    omega
  rw [readElements, hskip]
  simp only [if_neg hcclose]
  exact readSequence_commaSeparated hclose hne hone rest _ hlength

end

/-! ## Values -/

theorem IsNumber.front {token : List Char} {d : Document} (h : IsNumber token d) :
    ∃ c more, token = c :: more ∧ isNumeric c = true ∧ isBlank c = false := by
  cases token with
  | nil => exact absurd rfl h.ne_nil
  | cons c more =>
    have hc := h.numeric c List.mem_cons_self
    refine ⟨c, more, rfl, hc, ?_⟩
    cases hblank : isBlank c with
    | false => rfl
    | true =>
      rw [isNumeric_of_isBlank hblank] at hc
      cases hc

/-- A value does not start with what ends a list or a table. -/
theorem Denotes.front {cs : List Char} {d : Document} (h : Denotes cs d) :
    ∃ c more, skipBlanks cs = c :: more ∧ c ∉ closers := by
  induction h with
  | null => exact ⟨_, _, rfl, by decide⟩
  | yes => exact ⟨_, _, rfl, by decide⟩
  | no => exact ⟨_, _, rfl, by decide⟩
  | @number token d hnumber =>
    obtain ⟨c, more, rfl, hc, hblank⟩ := hnumber.front
    refine ⟨c, more, skipBlanks_of_cons hblank, ?_⟩
    intro hmem
    rw [(closers_spec hmem).1] at hc
    cases hc
  | text => exact ⟨_, _, rfl, by decide⟩
  | emptyList => exact ⟨_, _, rfl, by decide⟩
  | list => exact ⟨_, _, rfl, by decide⟩
  | emptyObject => exact ⟨_, _, rfl, by decide⟩
  | object => exact ⟨_, _, rfl, by decide⟩
  | blanks hleft _ _ ih =>
    obtain ⟨c, more, hskip, hc⟩ := ih
    rw [skipBlanks_append hleft]
    exact ⟨c, _, skipBlanks_append_of_cons hskip _, hc⟩

/-- A value without blanks in front is read as it stands. -/
theorem readValue_of_readBare {fuel : Nat} {c : Char} {more rest : List Char} {d : Document}
    (hblank : isBlank c = false) (hfuel : 0 < fuel)
    (h : ∀ n, fuel = n + 1 → readBare (readValue n) (c :: more) = some (d, rest)) :
    readValue fuel (c :: more) = some (d, skipBlanks rest) := by
  cases fuel with
  | zero => cases hfuel
  | succ n =>
    rw [readValue, skipBlanks_of_cons hblank, h n rfl]
    rfl

section
variable {nested : List Char → Option (Document × List Char)}

theorem readBare_number {token rest : List Char} {d : Document} (h : IsNumber token d)
    (hrest : Ends rest) : readBare nested (token ++ rest) = some (d, rest) := by
  obtain ⟨htake, hdrop⟩ := span_append h.numeric hrest
  obtain ⟨c, more, rfl, hc, -⟩ := h.front
  have hmarks : c ≠ '"' ∧ c ≠ '[' ∧ c ≠ '\x7b' := by
    refine ⟨?_, ?_, ?_⟩ <;>
    · rintro rfl
      cases hc
  rw [List.cons_append] at htake hdrop ⊢
  simp only [readBare, if_neg hmarks.1, if_neg hmarks.2.1, if_neg hmarks.2.2, if_pos hc, htake,
    hdrop, readNumber?_of_isNumber h]
  rfl

theorem readBare_text {body cs : List Char} (h : SpellsAll body cs) (rest : List Char) :
    readBare nested ('"' :: (body ++ '"' :: rest)) = some (.text (String.ofList cs), rest) := by
  have hfuel : cs.length < (body ++ '"' :: rest).length := by
    have := h.length_le
    simp only [List.length_append, List.length_cons]
    omega
  simp only [readBare, if_true, readChars?_of_spellsAll h rest _ hfuel]
  rfl

theorem readBare_list {body rest : List Char} {items : List Document}
    (h : readElements nested ']' body = some (items, rest)) :
    readBare nested ('[' :: body) = some (.list items, rest) := by
  simp [readBare, h]

theorem readBare_object {body rest : List Char} {entries : Fields}
    (h : readElements (readMember nested) '\x7d' body = some (entries, rest)) :
    readBare nested ('\x7b' :: body) = some (.object (Table.insertAll [] entries), rest) := by
  simp [readBare, h]

theorem readMember_written {member : Member} {rest : List Char}
    (hname : ∀ rest, Ends rest →
      nested (member.name ++ rest) = some (.text member.key, skipBlanks rest))
    (hvalue : nested (member.text ++ rest) = some (member.value, skipBlanks rest)) :
    readMember nested (member.written ++ rest) = some (member.entry, skipBlanks rest) := by
  have hread := hname (':' :: (member.text ++ rest)) (ends_of_cons rfl)
  rw [skipBlanks_of_cons rfl] at hread
  rw [Member.written, List.append_assoc, List.cons_append, readMember, hread]
  simp [hvalue, Member.entry]

end

theorem readValue_blanks_append {left : List Char} (h : left.all isBlank = true) (fuel : Nat)
    (cs : List Char) : readValue fuel (left ++ cs) = readValue fuel cs := by
  cases fuel with
  | zero => rfl
  | succ n => rw [readValue, readValue, skipBlanks_append h]

theorem length_lt_of_mem {β : Type} {items : List β} (text : β → List Char) {item : β} {fuel : Nat}
    (h : item ∈ items) (hfuel : (commaSeparated (items.map text)).length + 1 < fuel) :
    (text item).length < fuel := by
  have := length_le_commaSeparated (List.mem_map_of_mem (f := text) h)
  omega

theorem readValue_of_denotes {cs : List Char} {d : Document} (h : Denotes cs d) :
    ∀ fuel rest, cs.length < fuel → Ends rest →
      readValue fuel (cs ++ rest) = some (d, skipBlanks rest) := by
  induction h with
  | blanks hleft hright _ ih =>
    intro fuel rest hfuel hrest
    simp only [List.length_append] at hfuel
    rw [List.append_assoc, List.append_assoc, readValue_blanks_append hleft,
      ih fuel _ (by omega) (hrest.blanks_append hright), skipBlanks_append hright]
  | null =>
    intro fuel rest hfuel _
    exact readValue_of_readBare rfl (Nat.zero_lt_of_lt hfuel) fun _ _ => rfl
  | yes =>
    intro fuel rest hfuel _
    exact readValue_of_readBare rfl (Nat.zero_lt_of_lt hfuel) fun _ _ => rfl
  | no =>
    intro fuel rest hfuel _
    exact readValue_of_readBare rfl (Nat.zero_lt_of_lt hfuel) fun _ _ => rfl
  | @number token d hnumber =>
    intro fuel rest hfuel hrest
    obtain ⟨c, more, rfl, -, hblank⟩ := hnumber.front
    exact readValue_of_readBare hblank (Nat.zero_lt_of_lt hfuel) fun _ _ =>
      readBare_number hnumber hrest
  | text hspells =>
    intro fuel rest hfuel _
    rw [List.cons_append, List.append_assoc]
    exact readValue_of_readBare rfl (Nat.zero_lt_of_lt hfuel) fun _ _ => readBare_text hspells rest
  | emptyList hblanks =>
    intro fuel rest hfuel _
    rw [List.cons_append, List.append_assoc]
    exact readValue_of_readBare rfl (Nat.zero_lt_of_lt hfuel) fun _ _ =>
      readBare_list (readElements_blanks hblanks (by decide) rest)
  | @list items hne hitems ih =>
    intro fuel rest hfuel _
    rw [List.cons_append, List.append_assoc]
    apply readValue_of_readBare rfl (Nat.zero_lt_of_lt hfuel)
    rintro fuel rfl
    apply readBare_list
    apply readElements_commaSeparated (by decide) hne
    · exact fun item hitem => (hitems item hitem).front
    · intro item hitem rest hrest
      apply ih item hitem fuel rest _ hrest
      exact length_lt_of_mem Prod.fst hitem (by simpa using hfuel)
  | emptyObject hblanks =>
    intro fuel rest hfuel _
    rw [List.cons_append, List.append_assoc]
    exact readValue_of_readBare rfl (Nat.zero_lt_of_lt hfuel) fun _ _ =>
      readBare_object (readElements_blanks hblanks (by decide) rest)
  | @object members hne hnames hvalues ihnames ihvalues =>
    intro fuel rest hfuel _
    rw [List.cons_append, List.append_assoc]
    apply readValue_of_readBare rfl (Nat.zero_lt_of_lt hfuel)
    rintro fuel rfl
    apply readBare_object
    apply readElements_commaSeparated (by decide) hne
    · intro member hmember
      obtain ⟨c, more, hskip, hc⟩ := (hnames member hmember).front
      exact ⟨c, _, skipBlanks_append_of_cons hskip _, hc⟩
    · intro member hmember rest hrest
      have hlength := length_lt_of_mem Member.written hmember (by simpa using hfuel)
      simp only [Member.written, List.length_append, List.length_cons] at hlength
      apply readMember_written
      · intro rest hrest
        exact ihnames member hmember fuel rest (by omega) hrest
      · exact ihvalues member hmember fuel rest (by omega) hrest

/-- A well-formed text is read as the document that it denotes. -/
theorem read?_of_denotes {text : String} {d : Document} (h : Denotes text.toList d) :
    read? text = some d := by
  have hread := readValue_of_denotes h (text.length + 1) [] (Nat.lt_succ_self _) (by simp [Ends])
  rw [List.append_nil] at hread
  rw [read?, hread]
  rfl

theorem Denotes.unique {cs : List Char} {d e : Document} (hd : Denotes cs d) (he : Denotes cs e) :
    d = e := by
  have hread : ∀ {value : Document}, Denotes cs value → read? (String.ofList cs) = some value := by
    intro value hvalue
    apply read?_of_denotes
    rwa [String.toList_ofList]
  have hsame := hread hd
  rw [hread he] at hsame
  exact (Option.some.inj hsame).symm

example : read? "[1, \"\\u0041\"]" = some (.list [.int 1, .text "A"]) := by cbv

example : read? "[1,]" = none := by cbv

end AuthBroker.Json
