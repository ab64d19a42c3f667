import AuthBroker.Proofs.Input.Filling

/-! # What the filled input depends on

The input that is filled from a stored configuration depends on it only through what the declared keys
of masked fields lead to there (`reconcile_congr`). -/

namespace AuthBroker.Input

variable {configuration configuration' : Fields}

theorem resolveField_congr (field : String) {expression : String}
    (h : (Document.object configuration).lookup expression =
      (Document.object configuration').lookup expression) :
    resolveField (.object configuration) field expression =
      resolveField (.object configuration') field expression := by
  unfold resolveField
  rw [h]
  rfl

/-- A declared field is found alike, if its keys lead to the same value. -/
theorem get?_resolve_congr {declarations : Declarations} {field : String}
    (h : ∀ keys, (field, keys) ∈ declarations →
      (Document.object configuration).lookup (expression keys) =
        (Document.object configuration').lookup (expression keys)) :
    Table.get? (resolve (.object configuration) (expressions declarations)).1 field =
      Table.get? (resolve (.object configuration') (expressions declarations)).1 field := by
  rw [resolve_expressions, resolve_expressions]
  refine Table.get?_filterMap_congr
    (fun field keys => (resolveField (.object configuration) field (expression keys)).toOption)
    (fun field keys => (resolveField (.object configuration') field (expression keys)).toOption)
    fun keys hkeys => ?_
  rw [resolveField_congr field (h keys hkeys)]

theorem merge_congr {stored stored' : Fields} {input : Option Fields}
    (h : ∀ field, (field, .text mask) ∈ input.getD [] → stored.get? field = stored'.get? field) :
    merge stored input = merge stored' input := by
  have hfindings : (input.getD []).map (fun entry => (entry.1, mergeField stored entry.1 entry.2)) =
      (input.getD []).map fun entry => (entry.1, mergeField stored' entry.1 entry.2) := by
    refine List.map_congr_left fun entry hentry => ?_
    obtain ⟨field, value⟩ := entry
    unfold mergeField
    by_cases hmask : isMask value = true
    · have hvalue := (isMask_iff value).mp hmask
      rw [hvalue] at hentry
      rw [h field hentry]
    · rw [if_neg hmask, if_neg hmask]
  exact congrArg (fun findings => (found findings, warnings findings)) hfindings

/-- Configurations in which the declared keys of masked fields lead to the same values give the same
input. -/
theorem reconcile_congr {spec : Connector.OAuthSpecification} {declarations : Declarations}
    {input : Option Fields} {result : Fields} {warnings : List Warning}
    (hdeclared : declared (.ofFields? spec.userInput) = .ok declarations)
    (hsame : ∀ field keys, (field, keys) ∈ declarations → (field, .text mask) ∈ input.getD [] →
      (Document.object configuration).lookup (expression keys) =
        (Document.object configuration').lookup (expression keys))
    (h : reconcile spec (.object configuration) input = .ok (result, warnings)) :
    ∃ warnings', reconcile spec (.object configuration') input = .ok (result, warnings') := by
  have hmerge : merge (resolve (.object configuration) (expressions declarations)).1 input =
      merge (resolve (.object configuration') (expressions declarations)).1 input :=
    merge_congr fun field hmasked =>
      get?_resolve_congr fun keys hkeys => hsame field keys hkeys hmasked
  rw [reconcile_of_declared _ input hdeclared] at h
  rw [reconcile_of_declared _ input hdeclared, ← hmerge]
  cases h
  exact ⟨_, rfl⟩

end AuthBroker.Input
