import SessionInventory.Proofs.Json.Values

/-!
# Reading whole texts

A text is read as an object exactly if it is a document (`objectDocument_iff`, `readObject_iff`). A
text that spells a value is read as this value unless the value is too deep (`read_spelled`,
`read_too_deep`).
-/

namespace SessionInventory.Json

theorem ended_iff {α : Type} {a b : α} {rest : List Char} :
    ended a rest = .ok b ↔ a = b ∧ Blank rest := by
  have hd : (skipBlanks rest).1 = rest.dropWhile isBlank := rfl
  rw [ended]
  constructor
  · intro h
    split at h
    · rename_i hnil
      cases h
      exact ⟨rfl, blank_of_dropWhile_eq_nil hnil⟩
    · cases h
  · rintro ⟨rfl, hb⟩
    have hnil := dropWhile_blank_append hb []
    rw [List.append_nil] at hnil
    simp only [hd, hnil, List.dropWhile_nil]

/-- A text is read as an object exactly if it is a document. -/
theorem objectDocument_iff {text : List Char} {members : Table Value} :
    objectDocument text = .ok members ↔ SpellsDocument text members := by
  have hd : (skipBlanks text).1 = text.dropWhile isBlank := rfl
  rw [objectDocument, hd]
  constructor
  · intro h
    split at h
    · cases h
    · rename_i c back hc
      obtain ⟨before, hbefore, rfl⟩ := exists_of_dropWhile_eq_cons hc
      split at h
      · rename_i hopen
        cases ho : objectOf (valueWithin (nestingLimit - 1)) back with
        | error fault => simp [ho] at h
        | ok p =>
          obtain ⟨ms, r⟩ := p
          simp only [ho] at h
          obtain ⟨rfl, hafter⟩ := ended_iff.mp h
          have hbare : bare (objectOf (valueWithin 126) back) = .ok (ms, r.1) := by
            rw [show objectOf (valueWithin 126) back = .ok (ms, r) from ho, bare_ok]
          obtain ⟨t, d, ht, hle, heq⟩ := spellsValue_of_objectOf (readsOnly_valueWithin 126) hbare
          exact ⟨before, t, r.1, d, hbefore, ht, hle, hafter, by rw [hopen, heq, List.append_assoc]⟩
      · split at h
        · cases h
        · split at h <;> cases h
  · rintro ⟨before, t, after, d, hbefore, ht, hle, hafter, rfl⟩
    obtain ⟨back, rfl, hmembers⟩ := bare_objectOf_spelled (readsWithin_valueWithin 126) ht
    have hopen := (ht.opens.append after).dropWhile
    rw [List.append_assoc, dropWhile_blank_append hbefore, hopen, List.cons_append]
    have hread := hmembers after
    rw [if_pos hle] at hread
    obtain ⟨_, ho⟩ := exists_of_bare_ok hread
    simp only [if_true, nestingLimit, ho]
    exact ended_iff.mpr ⟨rfl, hafter⟩

/-- A flaw of an object is a flaw of the text. -/
theorem readObject_of_error {text : String} {before rest : List Char} {flaw : Flaw}
    (hb : Blank before) (h : bare (valueWithin nestingLimit ('{' :: rest)) = .error flaw)
    (htext : text.toList = before ++ '{' :: rest) :
    ∃ e, readObject text = .error e ∧ e.flaw = flaw := by
  have hopen : (skipBlanks text.toList).1 = '{' :: rest := by
    rw [htext]
    exact dropWhile_blank_append hb _
  have hmembers : bare (objectOf (valueWithin (nestingLimit - 1)) rest) = .error flaw := by
    have hvalue : bare (valueWithin nestingLimit ('{' :: rest)) =
        andThen (bare (objectOf (valueWithin (nestingLimit - 1)) rest))
          fun members r => .ok (.object members, r) :=
      bare_valueOf (some (valueWithin (nestingLimit - 1))) ('{' :: rest)
    rw [hvalue] at h
    cases hm : bare (objectOf (valueWithin (nestingLimit - 1)) rest) with
    | error other =>
      rw [hm] at h
      exact congrArg Except.error (Except.error.inj h)
    | ok p =>
      rw [hm] at h
      cases h
  obtain ⟨fault, hfault, hflaw⟩ := exists_of_bare_error hmembers
  refine ⟨fault.within text, ?_, hflaw⟩
  rw [readObject, objectDocument, hopen]
  simp only [if_true, hfault, located]

theorem readObject_iff {text : String} {members : Table Value} :
    readObject text = .ok members ↔ SpellsDocument text.toList members := by
  rw [← objectDocument_iff, readObject]
  cases objectDocument text.toList with
  | error fault => simp [located]
  | ok ms => simp [located]

section

variable {text : String} {d : Nat} {v : Value}

theorem bare_valueWithin_spelled (h : SpellsValue text.toList d v) :
    bare (valueWithin nestingLimit text.toList) =
      if d ≤ 127 then .ok (v, []) else .error .tooDeep := by
  have hread := readsWithin_valueWithin nestingLimit h Stops.nil
  rwa [List.append_nil] at hread

/-- The text of a value is read as this value. -/
theorem read_spelled (h : SpellsValue text.toList d v) (hd : d ≤ 127) : read text = .ok v := by
  have hread := bare_valueWithin_spelled h
  rw [if_pos hd] at hread
  obtain ⟨_, hv⟩ := exists_of_bare_ok hread
  have hended : ended v [] = .ok v := ended_iff.mpr ⟨rfl, Blank.nil⟩
  simp only [read, document, hv, hended, located]

/-- The text of a value that is too deep is not read. -/
theorem read_too_deep (h : SpellsValue text.toList d v) (hd : 127 < d) :
    ∃ e, read text = .error e ∧ e.flaw = .tooDeep := by
  have hread := bare_valueWithin_spelled h
  rw [if_neg (Nat.not_le_of_lt hd)] at hread
  obtain ⟨fault, hv, hflaw⟩ := exists_of_bare_error hread
  exact ⟨fault.within text, by rw [read, document, hv, located], hflaw⟩

end

end SessionInventory.Json
