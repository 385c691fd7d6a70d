import SessionInventory.Json.Reader.Value
import SessionInventory.Proofs.Json.Numbers
import SessionInventory.Proofs.Json.Series
import SessionInventory.Proofs.Json.Strings
import SessionInventory.Proofs.Table

/-!
# Reading values

`valueWithin n` reads what is spelled at most `n` deep and finds anything deeper too deep
(`readsWithin_valueWithin`), and it reads nothing else (`readsOnly_valueWithin`). Both are by
induction on the depth: the reader of items one level down is that of the values there.
-/

namespace SessionInventory.Json

/-! ## Scalars -/

theorem eq_append_of_keyword {letters text : List Char} {rest : Tail text}
    (h : keyword letters text = .ok rest) : text = letters ++ rest.1 := by
  induction letters generalizing text with
  | nil =>
    cases h
    rfl
  | cons l letters ih =>
    cases text with
    | nil => cases h
    | cons c text =>
      rw [keyword] at h
      split at h
      · rename_i hc
        cases hk : keyword letters text with
        | error fault => simp [hk] at h
        | ok left =>
          simp only [hk] at h
          cases h
          rw [hc]
          exact congrArg (l :: ·) (ih hk)
      · cases h

/-- A word that is read is there, whatever its value. -/
theorem eq_of_word {c : Char} {letters back rest : List Char} {v w : Value}
    (h : bare (match keyword letters back with
      | .error fault => .error fault
      | .ok r => .ok (w, (⟨r.1, Nat.lt_succ_of_le r.2⟩ : Rest (c :: back)))) = .ok (v, rest)) :
    v = w ∧ back = letters ++ rest := by
  cases hk : keyword letters back with
  | error fault => simp [hk] at h
  | ok r =>
    simp only [hk] at h
    cases h
    exact ⟨rfl, eq_append_of_keyword hk⟩

theorem bare_scalar_quote (rest : List Char) :
    bare (scalar ('"' :: rest)) = andThen (bare (string rest)) fun s r => .ok (.string s, r) := by
  rw [scalar, if_neg (by decide), if_neg (by decide), if_neg (by decide), if_pos rfl]
  cases string rest <;> rfl

theorem ne_of_sign_or_digit {c d : Char} (hc : c = '-' ∨ c.isDigit = true) (hm : d ≠ '-')
    (hd : d.isDigit = false) : c ≠ d := by
  rintro rfl
  simp [hm, hd] at hc

theorem bare_scalar_number {c : Char} (hc : c = '-' ∨ c.isDigit = true) (rest : List Char) :
    bare (scalar (c :: rest)) =
      andThen (bare (number (c :: rest))) fun n r => .ok (.number n, r) := by
  have other {d : Char} := ne_of_sign_or_digit (d := d) hc
  rw [scalar, if_neg (other (by decide) (by decide)), if_neg (other (by decide) (by decide)),
    if_neg (other (by decide) (by decide)), if_neg (other (by decide) (by decide)), if_pos hc]
  cases number (c :: rest) <;> rfl

/-- A spelled scalar is read, up to what no number goes on with. -/
theorem bare_scalar_spelled {t rest : List Char} {v : Value} (h : SpellsValue t 0 v)
    (hr : Stops rest) : bare (scalar (t ++ rest)) = .ok (v, rest) := by
  cases h with
  | null => rfl
  | true => rfl
  | false => rfl
  | number h hv =>
    obtain ⟨c, back, rfl, hc⟩ := h.exists_cons
    rw [List.cons_append, bare_scalar_number hc, ← List.cons_append, bare_number_spelled h hv hr,
      andThen_ok]
  | string h =>
    obtain ⟨back, rfl⟩ := h.exists_cons
    rw [List.cons_append, bare_scalar_quote, bare_string_iff.mpr ⟨back, h, rfl⟩, andThen_ok]

/-- A scalar that is read is spelled. -/
theorem exists_of_scalar {text rest : List Char} {v : Value}
    (h : bare (scalar text) = .ok (v, rest)) : ∃ t, SpellsValue t 0 v ∧ text = t ++ rest := by
  cases text with
  | nil => cases h
  | cons c back =>
    by_cases hq : c = '"'
    · rw [hq, bare_scalar_quote] at h
      obtain ⟨s, r, hs, hnext⟩ := exists_of_andThen h
      cases hnext
      obtain ⟨t, ht, rfl⟩ := bare_string_iff.mp hs
      exact ⟨'"' :: t, .string ht, by rw [hq]; rfl⟩
    · by_cases hm : c = '-' ∨ c.isDigit = true
      · rw [bare_scalar_number hm] at h
        obtain ⟨n, r, hn, hnext⟩ := exists_of_andThen h
        cases hnext
        obtain ⟨t, l, ht, hv, heq⟩ := exists_of_number hn
        exact ⟨t, .number ht hv, heq⟩
      · rw [scalar] at h
        by_cases hn : c = 'n'
        · rw [if_pos hn] at h
          obtain ⟨rfl, rfl⟩ := eq_of_word h
          exact ⟨_, .null, by rw [hn]; rfl⟩
        · by_cases ht : c = 't'
          · rw [if_neg hn, if_pos ht] at h
            obtain ⟨rfl, rfl⟩ := eq_of_word h
            exact ⟨_, .true, by rw [ht]; rfl⟩
          · by_cases hf : c = 'f'
            · rw [if_neg hn, if_neg ht, if_pos hf] at h
              obtain ⟨rfl, rfl⟩ := eq_of_word h
              exact ⟨_, .false, by rw [hf]; rfl⟩
            · rw [if_neg hn, if_neg ht, if_neg hf, if_neg hq, if_neg hm] at h
              cases h

/-! ## Members -/

section

variable {α : Type} (part : Reader α)

theorem bare_member_quote (rest : List Char) :
    bare (member part ('"' :: rest)) = andThen (bare (string rest)) fun name behind =>
      match behind.dropWhile isBlank with
      | [] => .error .endInObject
      | c :: next =>
        if c = ':' then andThen (bare (part next)) fun a r => .ok ((name, a), r)
        else .error .expectedColon := by
  rw [member]
  cases string rest with
  | error fault => rfl
  | ok p =>
    obtain ⟨name, behind, h⟩ := p
    obtain ⟨left, hl, hd⟩ := exists_skipBlanks behind
    simp only [bare_ok, andThen_ok, hl, hd]
    obtain ⟨_ | ⟨c, next⟩, hc⟩ := left
    · rfl
    · simp only
      by_cases hcolon : c = ':'
      · rw [if_pos hcolon, if_pos hcolon]
        cases part next <;> rfl
      · rw [if_neg hcolon, if_neg hcolon]
        rfl

theorem bare_member_of_ne {text : List Char} (h : text.head? ≠ some '"') :
    bare (member part text) = .error .keyNotString := by
  rw [member.eq_2 part text fun rest heq => h (by rw [heq]; rfl), bare_error]
  rfl

variable {part} {n : Nat} {spells : List Char → Nat → α → Prop}

theorem ReadsWithin.member (hr : ReadsWithin n part spells)
    (hskip : ∀ {a text}, Blank a → bare (part (a ++ text)) = bare (part text)) :
    ReadsWithin n (member part) (SpellsMember spells) := by
  intro t d m h rest hrest
  obtain @⟨name, _, b, a, t, d, x, hn, hb, ha, hx⟩ := h
  obtain ⟨back, rfl⟩ := hn.exists_cons
  rw [show '"' :: back ++ b ++ ':' :: (a ++ t) ++ rest =
      '"' :: (back ++ (b ++ ':' :: (a ++ (t ++ rest)))) by simp, bare_member_quote,
    bare_string_iff.mpr ⟨back, hn, rfl⟩]
  have hcolon : (b ++ ':' :: (a ++ (t ++ rest))).dropWhile isBlank = ':' :: (a ++ (t ++ rest)) := by
    rw [dropWhile_blank_append hb]
    rfl
  simp only [andThen_ok, hcolon, if_true, hskip ha, hr hx hrest, andThen_ite]

theorem ReadsOnly.member (hr : ReadsOnly n part spells) :
    ReadsOnly n (member part) (SpellsMember spells) := by
  intro text m rest h
  by_cases hq : text.head? = some '"'
  · obtain ⟨back, rfl⟩ := List.head?_eq_some_iff.mp hq
    rw [bare_member_quote] at h
    obtain ⟨name, behind, hs, h₁⟩ := exists_of_andThen h
    obtain ⟨t, hname, rfl⟩ := bare_string_iff.mp hs
    split at h₁
    · cases h₁
    · rename_i c next hnext
      obtain ⟨b, hb, rfl⟩ := exists_of_dropWhile_eq_cons hnext
      split at h₁
      · rename_i hc
        obtain ⟨x, r, hp, h₂⟩ := exists_of_andThen h₁
        cases h₂
        obtain ⟨a, u, d, ha, hu, hd, rfl⟩ := hr hp
        exact ⟨[], _, d, .nil, .mk hname hb ha hu, hd, by simp [hc]⟩
      · cases h₁
  · rw [bare_member_of_ne part hq] at h
    cases h

theorem SpellsMember.opens {t : List Char} {d : Nat} {m : String × α} (h : SpellsMember spells t d m) :
    Opens t := by
  obtain ⟨hn, hb, ha, hx⟩ := h
  obtain ⟨back, rfl⟩ := hn.exists_cons
  exact ⟨'"', _, rfl, by decide, by decide, by decide⟩

end

/-! ## Values -/

theorem bare_objectOf (part : Reader Value) (text : List Char) :
    bare (objectOf part text) =
      andThen (bare (items .object (member part) text)) fun ms r => .ok (Table.ofList ms, r) := by
  rw [objectOf]
  cases items .object (member part) text <;> rfl

theorem bare_valueOf (part : Option (Reader Value)) (text : List Char) :
    bare (valueOf part text) = match text.dropWhile isBlank with
      | [] => .error .endInValue
      | c :: rest =>
        if c = '[' then match part with
          | none => .error .tooDeep
          | some part => andThen (bare (items .array part rest)) fun vs r => .ok (.array vs, r)
        else if c = '{' then match part with
          | none => .error .tooDeep
          | some part =>
            andThen (bare (objectOf part rest)) fun members r => .ok (.object members, r)
        else bare (scalar (c :: rest)) := by
  rw [valueOf]
  obtain ⟨left, hl, hd⟩ := exists_skipBlanks text
  simp only [hl, hd]
  obtain ⟨_ | ⟨c, rest⟩, hc⟩ := left
  · rfl
  · simp only
    by_cases ha : c = '['
    · rw [if_pos ha, if_pos ha]
      cases part with
      | none => rfl
      | some part =>
        simp only
        cases items .array part rest <;> rfl
    · rw [if_neg ha, if_neg ha]
      by_cases ho : c = '{'
      · rw [if_pos ho, if_pos ho]
        cases part with
        | none => rfl
        | some part =>
          simp only
          cases objectOf part rest <;> rfl
      · rw [if_neg ho, if_neg ho]
        cases scalar (c :: rest) <;> rfl

theorem bare_valueOf_blank_append (part : Option (Reader Value)) {a : List Char} (ha : Blank a)
    (text : List Char) : bare (valueOf part (a ++ text)) = bare (valueOf part text) := by
  rw [bare_valueOf, bare_valueOf, dropWhile_blank_append ha]

theorem valueWithin_blank_append {n : Nat} {a text : List Char} (ha : Blank a) :
    bare (valueWithin n (a ++ text)) = bare (valueWithin n text) := by
  cases n <;> exact bare_valueOf_blank_append _ ha text

/-- A number begins as no container does, and with no blank. -/
theorem SpellsLiteral.exists_opening {t : List Char} {l : Literal} (h : SpellsLiteral t l) :
    ∃ c rest, t = c :: rest ∧ (c = '-' ∨ c.isDigit = true) ∧ isBlank c = false ∧ c ≠ '[' ∧
      c ≠ '{' ∧ c ≠ ']' ∧ c ≠ '}' := by
  obtain ⟨c, rest, rfl, hc⟩ := h.exists_cons
  have other {d : Char} := ne_of_sign_or_digit (d := d) hc
  refine ⟨c, rest, rfl, hc, ?_, ?_, ?_, ?_, ?_⟩
  · rw [← Bool.not_eq_true, isBlank_iff]
    rintro (h | h | h | h) <;> exact other (by decide) (by decide) h
  all_goals exact other (by decide) (by decide)

/-- A number out of range is found where a value is read. -/
theorem bare_valueOf_out_of_range (part : Option (Reader Value)) {t rest : List Char} {l : Literal}
    (h : SpellsLiteral t l) (hv : l.value? = none) (hr : Stops rest) :
    bare (valueOf part (t ++ rest)) = .error .numberOutOfRange := by
  have hread := bare_literal_spelled h hr
  obtain ⟨c, back, rfl, hc, hblank, ha, ho, -⟩ := h.exists_opening
  rw [List.cons_append] at hread ⊢
  rw [bare_valueOf, List.dropWhile_cons_of_neg (Bool.eq_false_iff.mp hblank)]
  simp only [if_neg ha, if_neg ho, bare_scalar_number hc, bare_number, hread, andThen_ok, hv,
    andThen_error]

/-- A scalar begins as no container does, and with no blank. -/
theorem exists_of_spellsScalar {t : List Char} {v : Value} (h : SpellsValue t 0 v) :
    ∃ c rest, t = c :: rest ∧ isBlank c = false ∧ c ≠ '[' ∧ c ≠ '{' ∧ c ≠ ']' ∧ c ≠ '}' := by
  cases h with
  | null => exact ⟨'n', _, rfl, by decide⟩
  | true => exact ⟨'t', _, rfl, by decide⟩
  | false => exact ⟨'f', _, rfl, by decide⟩
  | string h =>
    obtain ⟨rest, rfl⟩ := h.exists_cons
    exact ⟨'"', rest, rfl, by decide⟩
  | number h hv =>
    obtain ⟨c, rest, rfl, -, hopening⟩ := h.exists_opening
    exact ⟨c, rest, rfl, hopening⟩

theorem SpellsValue.opens {t : List Char} {d : Nat} {v : Value} (h : SpellsValue t d v) : Opens t := by
  cases d with
  | zero =>
    obtain ⟨c, rest, ht, hc, -, -, hclose⟩ := exists_of_spellsScalar h
    exact ⟨c, rest, ht, hc, hclose⟩
  | succ d =>
    cases h with
    | emptyArray hb => exact ⟨'[', _, rfl, by decide⟩
    | array h => exact ⟨'[', _, rfl, by decide⟩
    | emptyObject hb => exact ⟨'{', _, rfl, by decide⟩
    | object h hs hf => exact ⟨'{', _, rfl, by decide⟩

theorem bare_valueOf_scalar (part : Option (Reader Value)) {t rest : List Char} {v : Value}
    (h : SpellsValue t 0 v) (hr : Stops rest) :
    bare (valueOf part (t ++ rest)) = .ok (v, rest) := by
  rw [bare_valueOf, (h.opens.append rest).dropWhile]
  have hscalar := bare_scalar_spelled h hr
  obtain ⟨c, back, rfl, -, ha, ho, -⟩ := exists_of_spellsScalar h
  rw [List.cons_append] at hscalar ⊢
  simp only [if_neg ha, if_neg ho, hscalar]

/-- Where containers are refused, the bracket is enough. -/
theorem bare_valueOf_none {t rest : List Char} {d : Nat} {v : Value} (h : SpellsValue t (d + 1) v) :
    bare (valueOf none (t ++ rest)) = .error .tooDeep := by
  rw [bare_valueOf, (h.opens.append rest).dropWhile]
  cases h <;> rfl

theorem ofList_eq_of_lookup {ms : List (String × Value)} {members : Table Value} (hs : members.Sorted)
    (hf : ∀ name, members.find? name = ms.reverse.lookup name) : Table.ofList ms = members :=
  (Table.sorted_ofList ms).ext hs fun name => by rw [Table.find?_ofList, hf]

section

variable {n : Nat} (hr : ReadsWithin n (valueWithin n) SpellsValue)

include hr

/-- The elements of an array are read up to their bracket. -/
theorem bare_items_array {t : List Char} {d : Nat} {vs : List Value}
    (h : SpellsValue t d (.array vs)) : ∃ back, t = '[' :: back ∧ ∀ rest,
      bare (items .array (valueWithin n) (back ++ rest)) =
        if d ≤ n + 1 then .ok (vs, rest) else .error .tooDeep := by
  cases h with
  | @emptyArray b hb =>
    refine ⟨b ++ [']'], rfl, fun rest => ?_⟩
    rw [if_pos (Nat.le_add_left 1 n), List.append_assoc]
    exact bare_items_blank (.inl rfl) hb rest
  | @array t d _ h =>
    refine ⟨t ++ [']'], rfl, fun rest => ?_⟩
    rw [List.append_assoc]
    simp only [Nat.add_le_add_iff_right]
    exact bare_items_listed SpellsValue.opens (.inl rfl) hr h rest

/-- The members of an object are read up to their bracket, as a table. -/
theorem bare_objectOf_spelled {t : List Char} {d : Nat} {members : Table Value}
    (h : SpellsValue t d (.object members)) : ∃ back, t = '{' :: back ∧ ∀ rest,
      bare (objectOf (valueWithin n) (back ++ rest)) =
        if d ≤ n + 1 then .ok (members, rest) else .error .tooDeep := by
  cases h with
  | @emptyObject b hb =>
    refine ⟨b ++ ['}'], rfl, fun rest => ?_⟩
    have hitems : bare (items .object (member (valueWithin n)) (b ++ ['}'] ++ rest)) =
        .ok ([], rest) := by
      rw [List.append_assoc]
      exact bare_items_blank (.inr rfl) hb rest
    rw [bare_objectOf, hitems, if_pos (Nat.le_add_left 1 n)]
    rfl
  | @object t d ms members h hs hf =>
    refine ⟨t ++ ['}'], rfl, fun rest => ?_⟩
    have hitems : bare (items .object (member (valueWithin n)) (t ++ ['}'] ++ rest)) =
        if d ≤ n then .ok (ms, rest) else .error .tooDeep := by
      rw [List.append_assoc]
      exact bare_items_listed SpellsMember.opens (.inr rfl) (hr.member valueWithin_blank_append) h rest
    simp only [bare_objectOf, hitems, andThen_ite, ofList_eq_of_lookup hs hf, Nat.add_le_add_iff_right]

end

theorem readsWithin_valueWithin (n : Nat) : ReadsWithin n (valueWithin n) SpellsValue := by
  induction n with
  | zero =>
    intro t d v h rest hrest
    cases d with
    | zero => exact bare_valueOf_scalar none h hrest
    | succ d => exact bare_valueOf_none h
  | succ n ih =>
    intro t d v h rest hrest
    cases d with
    | zero => exact bare_valueOf_scalar _ h hrest
    | succ d =>
      rw [valueWithin, bare_valueOf, (h.opens.append rest).dropWhile]
      have hcontainer : (∃ vs, v = .array vs) ∨ ∃ members, v = .object members := by
        cases h with
        | emptyArray _ | array _ => exact .inl ⟨_, rfl⟩
        | emptyObject _ | object _ _ _ => exact .inr ⟨_, rfl⟩
      rcases hcontainer with ⟨vs, rfl⟩ | ⟨members, rfl⟩
      · obtain ⟨back, rfl, hitems⟩ := bare_items_array ih h
        rw [List.cons_append]
        simp only [if_true, hitems, andThen_ite]
      · obtain ⟨back, rfl, hmembers⟩ := bare_objectOf_spelled ih h
        rw [List.cons_append]
        simp only [if_true, hmembers, andThen_ite]
        rfl

section

variable {n : Nat} (hr : ReadsOnly n (valueWithin n) SpellsValue)

include hr

theorem spellsValue_of_items {back rest : List Char} {vs : List Value}
    (h : bare (items .array (valueWithin n) back) = .ok (vs, rest)) :
    ∃ t d, SpellsValue t d (.array vs) ∧ d ≤ n + 1 ∧ '[' :: back = t ++ rest := by
  rcases exists_of_items hr h with ⟨rfl, b, hb, rfl⟩ | ⟨t, d, ht, hd, rfl⟩
  · exact ⟨_, 1, .emptyArray hb, Nat.le_add_left 1 n, by simp [Bracket.array]⟩
  · exact ⟨_, d + 1, .array ht, Nat.succ_le_succ hd, by simp [Bracket.array]⟩

theorem spellsValue_of_objectOf {back rest : List Char} {members : Table Value}
    (h : bare (objectOf (valueWithin n) back) = .ok (members, rest)) :
    ∃ t d, SpellsValue t d (.object members) ∧ d ≤ n + 1 ∧ '{' :: back = t ++ rest := by
  rw [bare_objectOf] at h
  obtain ⟨ms, r, hi, hnext⟩ := exists_of_andThen h
  cases hnext
  rcases exists_of_items hr.member hi with ⟨rfl, b, hb, rfl⟩ | ⟨t, d, ht, hd, rfl⟩
  · exact ⟨_, 1, .emptyObject hb, Nat.le_add_left 1 n, by simp [Bracket.object]⟩
  · exact ⟨_, d + 1, .object ht (Table.sorted_ofList ms) (Table.find?_ofList ms),
      Nat.succ_le_succ hd, by simp [Bracket.object]⟩

end

theorem readsOnly_valueWithin (n : Nat) : ReadsOnly n (valueWithin n) SpellsValue := by
  induction n with
  | zero =>
    intro text v rest h
    rw [valueWithin, bare_valueOf] at h
    split at h
    · cases h
    · rename_i c back hc
      obtain ⟨b, hb, rfl⟩ := exists_of_dropWhile_eq_cons hc
      split at h
      · cases h
      · split at h
        · cases h
        · obtain ⟨t, ht, heq⟩ := exists_of_scalar h
          exact ⟨b, t, 0, hb, ht, Nat.le_refl 0, by rw [heq, List.append_assoc]⟩
  | succ n ih =>
    intro text v rest h
    rw [valueWithin, bare_valueOf] at h
    split at h
    · cases h
    · rename_i c back hc
      obtain ⟨b, hb, rfl⟩ := exists_of_dropWhile_eq_cons hc
      split at h
      · rename_i hopen
        obtain ⟨vs, r, hi, hnext⟩ := exists_of_andThen h
        cases hnext
        obtain ⟨t, d, ht, hd, heq⟩ := spellsValue_of_items ih hi
        exact ⟨b, t, d, hb, ht, hd, by rw [hopen, heq, List.append_assoc]⟩
      · split at h
        · rename_i hopen
          obtain ⟨members, r, hm, hnext⟩ := exists_of_andThen h
          cases hnext
          obtain ⟨t, d, ht, hd, heq⟩ := spellsValue_of_objectOf ih hm
          exact ⟨b, t, d, hb, ht, hd, by rw [hopen, heq, List.append_assoc]⟩
        · obtain ⟨t, ht, heq⟩ := exists_of_scalar h
          exact ⟨b, t, 0, hb, ht, Nat.zero_le _, by rw [heq, List.append_assoc]⟩

end SessionInventory.Json
