import AuthBroker.Proofs.Identifier
import AuthBroker.Proofs.Text.Decimal
import AuthBroker.Secret.Coordinate
import Mathlib.Data.List.Basic

/-! # What a written coordinate tells

A written coordinate ends in its version, which holds no `v`, so the last `_v` divides it from the base
whatever the base looks like (`full_injective`). Behind the label everything in a minted coordinate has
a fixed length, so there the written form even tells the label, the workspace and the identifier
(`full_mint_injective`). -/

namespace AuthBroker

namespace Secret.Coordinate

/-! ## Any coordinate -/

theorem toList_full (coordinate : Coordinate) :
    coordinate.full.toList =
      (coordinate.base.toList ++ ['_', 'v']) ++ Document.intText coordinate.version := by
  simp only [full, String.toList_append, String.toList_ofList]
  rfl

theorem v_notMem_intText (n : Int) : 'v' ∉ Document.intText n :=
  Document.notMem_intText (by decide) (by decide) n

theorem parts_eq_of_notMem {α : Type} [DecidableEq α] {a b : α} {front front' back back' : List α}
    (hback : b ∉ back) (hback' : b ∉ back')
    (h : (front ++ [a, b]) ++ back = (front' ++ [a, b]) ++ back') :
    front = front' ∧ back = back' := by
  -- read from the end, each side goes on without a `b` up to the one that divides it
  have hrev : back.reverse ++ b :: a :: front.reverse = back'.reverse ++ b :: a :: front'.reverse := by
    simpa using congrArg List.reverse h
  have hcut : ∀ {tail : List α} (rest : List α), b ∉ tail →
      (tail.reverse ++ b :: rest).takeWhile (· != b) = tail.reverse := by
    intro tail rest hend
    have hpass : ∀ c ∈ tail.reverse, (c != b) = true := by
      intro c hc
      refine bne_iff_ne.mpr ?_
      rintro rfl
      exact hend (List.mem_reverse.mp hc)
    rw [List.takeWhile_append_of_pos hpass]
    simp
  have hbacks : back.reverse = back'.reverse := by
    have hcuts := congrArg (List.takeWhile (· != b)) hrev
    rwa [hcut _ hback, hcut _ hback'] at hcuts
  rw [hbacks] at hrev
  have hfronts := List.append_cancel_left hrev
  exact ⟨List.reverse_inj.mp (List.cons.inj (List.cons.inj hfronts).2).2, List.reverse_inj.mp hbacks⟩

/-- No two coordinates are written alike, whatever their bases end in. -/
theorem full_injective : Function.Injective full := by
  intro c c' h
  have hlist := congrArg String.toList h
  rw [toList_full, toList_full] at hlist
  obtain ⟨hbase, hversion⟩ :=
    parts_eq_of_notMem (v_notMem_intText c.version) (v_notMem_intText c'.version) hlist
  obtain ⟨base, version⟩ := c
  obtain ⟨base', version'⟩ := c'
  obtain rfl : base = base' := String.toList_injective hbase
  obtain rfl : version = version' := Document.intText_injective hversion
  rfl

/-! ## Minted coordinates -/

theorem toList_full_mint (label : String) (workspace secret : Identifier) :
    (mint label workspace secret).full.toList =
      label.toList ++ (workspace.text.toList ++ ("_secret_".toList ++
        (secret.text.toList ++ "_v1".toList))) := by
  have hversion : String.ofList (Document.intText firstVersion) = "1" := rfl
  rw [full, mint, hversion]
  simp only [String.toList_append, List.append_assoc]
  rfl

/-- The written form determines the label, the workspace and the identifier. -/
theorem full_mint_injective {label label' : String} {workspace workspace' secret secret' : Identifier}
    (h : (mint label workspace secret).full = (mint label' workspace' secret').full) :
    label = label' ∧ workspace = workspace' ∧ secret = secret' := by
  have hlist := congrArg String.toList h
  rw [toList_full_mint, toList_full_mint] at hlist
  have hworkspace : workspace.text.toList.length = workspace'.text.toList.length := by
    rw [workspace.length_text, workspace'.length_text]
  have hsecret : secret.text.toList.length = secret'.text.toList.length := by
    rw [secret.length_text, secret'.length_text]
  -- cut off from the end what is as long on both sides
  obtain ⟨hlabel, hrest⟩ := List.append_inj' hlist (by
    simp only [List.length_append, hworkspace, hsecret])
  obtain ⟨hworkspaces, hrest⟩ := List.append_inj hrest hworkspace
  obtain ⟨-, hrest⟩ := List.append_inj hrest rfl
  obtain ⟨hsecrets, -⟩ := List.append_inj hrest hsecret
  exact ⟨String.toList_injective hlabel,
    Identifier.text_injective (String.toList_injective hworkspaces),
    Identifier.text_injective (String.toList_injective hsecrets)⟩

end Secret.Coordinate

end AuthBroker
