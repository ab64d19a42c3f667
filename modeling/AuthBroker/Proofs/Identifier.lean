import AuthBroker.Identifier
import Mathlib.Algebra.Group.Nat.Defs
import Mathlib.Data.Nat.Basic
import Mathlib.Data.Set.Operations
import Mathlib.Order.Interval.Set.Defs

/-! # The written form of an identifier

It has 36 characters, whatever the identifier, and no two identifiers share it
(`Identifier.text_injective`). -/

namespace AuthBroker

/-! ## Hexadecimal digits of a fixed width -/

theorem Text.length_hex {width n : Nat} (hwidth : 0 < width) (hn : n < 16 ^ width) :
    (Text.hex width n).length = width := by
  have hlen : (Nat.toDigits 16 n).length ≤ width :=
    (Nat.length_toDigits_le_iff (by decide) hwidth).mpr hn
  rw [Text.hex, List.length_append, List.length_replicate]
  omega

/-- The last digit stands for the remainder, and the others for the quotient. -/
theorem Text.hex_succ {width : Nat} (hwidth : 0 < width) (n : Nat) :
    Text.hex (width + 1) n = Text.hex width (n / 16) ++ [(n % 16).digitChar] := by
  unfold Text.hex
  by_cases hn : n < 16
  · have hdiv : n / 16 = 0 := Nat.div_eq_of_lt hn
    have hmod : n % 16 = n := Nat.mod_eq_of_lt hn
    have hzeros : List.replicate (width - 1) '0' ++ ['0'] = List.replicate width '0' := by
      rw [← List.replicate_succ', Nat.sub_add_cancel hwidth]
    dsimp only
    rw [hdiv, hmod, Nat.toDigits_of_lt_base hn, Nat.toDigits_zero, List.length_singleton,
      List.length_singleton, hzeros, Nat.add_sub_cancel]
  · have hdigits := Nat.toDigits_of_base_le (b := 16) (by decide) (Nat.not_lt.mp hn)
    have hlen : (width + 1) - (Nat.toDigits 16 n).length =
        width - (Nat.toDigits 16 (n / 16)).length := by
      rw [hdigits, List.length_append, List.length_singleton]
      omega
    dsimp only
    rw [hlen, hdigits, List.append_assoc]

theorem Text.digitChar_injective :
    ∀ m < 16, ∀ n < 16, Nat.digitChar m = Nat.digitChar n → m = n := by
  decide

theorem Text.hex_injective {width m n : Nat} (hm : m < 16 ^ (width + 1))
    (hn : n < 16 ^ (width + 1)) (h : Text.hex (width + 1) m = Text.hex (width + 1) n) : m = n := by
  induction width generalizing m n with
  | zero =>
    have hdigit : ∀ k < 16, Text.hex 1 k = [k.digitChar] := by
      intro k hk
      rw [Text.hex, Nat.toDigits_of_lt_base hk]
      rfl
    rw [hdigit m hm, hdigit n hn] at h
    exact Text.digitChar_injective m hm n hn (List.cons.inj h).1
  | succ width ih =>
    rw [Text.hex_succ (Nat.succ_pos width), Text.hex_succ (Nat.succ_pos width)] at h
    obtain ⟨hinit, hlast⟩ := List.append_inj' h rfl
    have hdiv : m / 16 = n / 16 := by
      refine ih ?_ ?_ hinit
      · rw [Nat.pow_succ] at hm
        omega
      · rw [Nat.pow_succ] at hn
        omega
    have hmod : m % 16 = n % 16 :=
      Text.digitChar_injective _ (Nat.mod_lt m (by decide)) _ (Nat.mod_lt n (by decide))
        (List.cons.inj hlast).1
    omega

namespace Identifier

/-! ## Groups of digits -/

theorem take_append_drop (cs : List Char) (start count : Nat) :
    (cs.drop start).take count ++ cs.drop (start + count) = cs.drop start := by
  rw [← List.drop_drop]
  exact List.take_append_drop count (cs.drop start)

theorem hyphenate_injective {ds es : List Char} (hd : ds.length = 32) (he : es.length = 32)
    (h : hyphenate ds = hyphenate es) : ds = es := by
  unfold hyphenate at h
  obtain ⟨h, h₅⟩ := List.append_inj' h (by simp [hd, he])
  obtain ⟨h, h₄⟩ := List.append_inj' h (by simp [hd, he])
  obtain ⟨h, h₃⟩ := List.append_inj' h (by simp [hd, he])
  obtain ⟨h₁, h₂⟩ := List.append_inj' h (by simp [hd, he])
  -- the groups lie side by side, so a list is made of them
  have hgroups : ∀ cs : List Char, cs.take 8 ++ ((cs.drop 8).take 4 ++ ((cs.drop 12).take 4 ++
      ((cs.drop 16).take 4 ++ cs.drop 20))) = cs := by
    intro cs
    rw [take_append_drop cs 16 4, take_append_drop cs 12 4, take_append_drop cs 8 4,
      List.take_append_drop]
  rw [← hgroups ds, ← hgroups es, h₁, (List.cons.inj h₂).2, (List.cons.inj h₃).2,
    (List.cons.inj h₄).2, (List.cons.inj h₅).2]

theorem length_hyphenate {ds : List Char} (hd : ds.length = 32) : (hyphenate ds).length = 36 := by
  simp [hyphenate, hd]

theorem length_digits (id : Identifier) : id.digits.length = 32 :=
  Text.length_hex (by decide) id.value.isLt

theorem length_text (id : Identifier) : id.text.toList.length = 36 := by
  rw [text, String.toList_ofList]
  exact length_hyphenate id.length_digits

/-- No two identifiers have the same written form. -/
theorem text_injective {id other : Identifier} (h : id.text = other.text) : id = other := by
  unfold text at h
  have hdigits : id.digits = other.digits :=
    hyphenate_injective id.length_digits other.length_digits (String.ofList_injective h)
  have hvalue : id.value.val = other.value.val :=
    Text.hex_injective id.value.isLt other.value.isLt hdigits
  cases id
  cases other
  exact congrArg Identifier.mk (Fin.ext hvalue)

/-- The identifiers that the broker numbers are distinct for as long as the numbers are below 2^64. -/
theorem minted_injOn {low high : Nat} (hhigh : high < 2 ^ 64) :
    Set.InjOn minted (Set.Ioc low high) := by
  rintro m ⟨-, hm⟩ n ⟨-, hn⟩ h
  have hvalue := congrArg (fun id => id.value.val) h
  simp only [minted, count] at hvalue
  omega

end Identifier

end AuthBroker
