import SessionInventory.Proofs.Json.Reading

/-!
# Reading items between brackets

`series` and `items` have one equation each (`bare_series`, `bare_items`), and the rest is said about
any reader of items that matches its grammar:

* `ReadsWithin`: it reads what is spelled up to a depth, and finds anything deeper too deep;
* `ReadsOnly`: whatever it reads is spelled and no deeper than that.

Both pass from the items to what stands between the brackets (`bare_items_listed`,
`exists_of_items`).
-/

namespace SessionInventory.Json

variable {α : Type}

/-! ## The equations of the readers -/

/-- One item, and what follows it. -/
theorem bare_series (b : Bracket) (item : Reader α) (text : List Char) :
    bare (series b item text) = andThen (bare (item text)) fun a rest =>
      match rest.dropWhile isBlank with
      | [] => .error b.unfinished
      | c :: behind =>
        if c = b.close then .ok ([a], behind)
        else if c = ',' then match behind.dropWhile isBlank with
          | [] => .error .endInValue
          | d :: next =>
            if d = b.close then .error .trailingComma
            else andThen (bare (series b item (d :: next))) fun as r => .ok (a :: as, r)
        else .error b.unseparated := by
  rw [series]
  cases item text with
  | error fault => rfl
  | ok p =>
    obtain ⟨a, rest, h⟩ := p
    obtain ⟨left, hl, hd⟩ := exists_skipBlanks rest
    simp only [bare_ok, andThen_ok, hl, hd]
    obtain ⟨_ | ⟨c, behind⟩, hc⟩ := left
    · rfl
    · simp only
      by_cases h₁ : c = b.close
      · rw [if_pos h₁, if_pos h₁, bare_ok]
      · rw [if_neg h₁, if_neg h₁]
        by_cases h₂ : c = ','
        · rw [if_pos h₂, if_pos h₂]
          obtain ⟨left, hl, hd⟩ := exists_skipBlanks behind
          simp only [hl, hd]
          obtain ⟨_ | ⟨d, next⟩, hn⟩ := left
          · rfl
          · simp only
            by_cases h₃ : d = b.close
            · rw [if_pos h₃, if_pos h₃]
              rfl
            · rw [if_neg h₃, if_neg h₃]
              cases series b item (d :: next) <;> rfl
        · rw [if_neg h₂, if_neg h₂]
          rfl

theorem bare_items (b : Bracket) (item : Reader α) (text : List Char) :
    bare (items b item text) = match text.dropWhile isBlank with
      | [] => .error b.unfinished
      | c :: rest => if c = b.close then .ok ([], rest) else bare (series b item (c :: rest)) := by
  rw [items]
  obtain ⟨left, hl, hd⟩ := exists_skipBlanks text
  simp only [hl, hd]
  obtain ⟨_ | ⟨c, rest⟩, hc⟩ := left
  · rfl
  · simp only
    by_cases h : c = b.close
    · rw [if_pos h, if_pos h, bare_ok]
    · rw [if_neg h, if_neg h]
      cases series b item (c :: rest) <;> rfl

/-! ## Readers of items and their grammars -/

/-- A text that begins neither with a blank nor with a closing bracket. -/
def Opens (text : List Char) : Prop :=
  ∃ c rest, text = c :: rest ∧ isBlank c = false ∧ c ≠ ']' ∧ c ≠ '}'

theorem Opens.dropWhile {text : List Char} (h : Opens text) : text.dropWhile isBlank = text := by
  obtain ⟨c, rest, rfl, hc, -⟩ := h
  exact List.dropWhile_cons_of_neg (by simp [hc])

theorem Opens.append {text : List Char} (h : Opens text) (rest : List Char) :
    Opens (text ++ rest) := by
  obtain ⟨c, back, rfl, hc⟩ := h
  exact ⟨c, back ++ rest, rfl, hc⟩

/-- The two brackets of the format. -/
def Bracket.Closing (b : Bracket) : Prop := b.close = ']' ∨ b.close = '}'

theorem Bracket.Closing.ne_comma {b : Bracket} (h : b.Closing) : ',' ≠ b.close := by
  rcases h with h | h <;> rw [h] <;> decide

theorem Bracket.Closing.stops {b : Bracket} (h : b.Closing) (rest : List Char) :
    Stops (b.close :: rest) := by
  intro c hc
  obtain rfl : b.close = c := by simpa using hc
  rcases h with h | h <;> rw [h] <;> decide

theorem Bracket.Closing.dropWhile {b : Bracket} (h : b.Closing) {a : List Char} (ha : Blank a)
    (rest : List Char) : (a ++ b.close :: rest).dropWhile isBlank = b.close :: rest := by
  rw [dropWhile_blank_append ha]
  refine List.dropWhile_cons_of_neg ?_
  rcases h with h | h <;> rw [h] <;> decide

section

variable (n : Nat) (item : Reader α) (spells : List Char → Nat → α → Prop)

/-- What is spelled at most `n` deep is read, whatever follows it, and anything deeper is refused. -/
def ReadsWithin : Prop :=
  ∀ {t d a}, spells t d a → ∀ {rest}, Stops rest →
    bare (item (t ++ rest)) = if d ≤ n then .ok (a, rest) else .error .tooDeep

/-- What is read is spelled, at most `n` deep, perhaps behind blanks. -/
def ReadsOnly : Prop :=
  ∀ {text a rest}, bare (item text) = .ok (a, rest) →
    ∃ b t d, Blank b ∧ spells t d a ∧ d ≤ n ∧ text = b ++ t ++ rest

end

variable {n : Nat} {item : Reader α} {spells : List Char → Nat → α → Prop} {b : Bracket}

/-! ## What is spelled is read -/

theorem Listed.exists_opens (ho : ∀ {t d a}, spells t d a → Opens t) {t : List Char} {d : Nat}
    {as : List α} (h : Listed spells t d as) : ∃ b t', Blank b ∧ Opens t' ∧ t = b ++ t' := by
  cases h with
  | one hb hx ha => exact ⟨_, _, hb, (ho hx).append _, List.append_assoc ..⟩
  | @more lead t trail _ _ ts _ _ hb hx ha hs =>
    exact ⟨lead, t ++ (trail ++ ',' :: ts), hb, (ho hx).append _, by simp only [List.append_assoc]⟩

/-- Without the blanks before them, items begin neither with a blank nor with a closing bracket. -/
theorem Listed.exists_dropWhile_eq (ho : ∀ {t d a}, spells t d a → Opens t) (hc : b.Closing)
    {t : List Char} {d : Nat} {as : List α} (h : Listed spells t d as) (rest : List Char) :
    ∃ c next, (t ++ rest).dropWhile isBlank = c :: next ∧ c ≠ b.close := by
  obtain ⟨a, t', ha, hopen, rfl⟩ := h.exists_opens ho
  rw [List.append_assoc, dropWhile_blank_append ha, (hopen.append rest).dropWhile]
  obtain ⟨c, back, rfl, -, h₁, h₂⟩ := hopen
  refine ⟨c, back ++ rest, rfl, ?_⟩
  rcases hc with hc | hc <;> rw [hc] <;> assumption

theorem bare_series_listed (ho : ∀ {t d a}, spells t d a → Opens t) (hc : b.Closing)
    (hr : ReadsWithin n item spells) {t : List Char} {d : Nat} {as : List α}
    (h : Listed spells t d as) (rest : List Char) :
    bare (series b item ((t ++ b.close :: rest).dropWhile isBlank)) =
      if d ≤ n then .ok (as, rest) else .error .tooDeep := by
  induction h with
  | @one lead t trail d a hb hx ha =>
    rw [List.append_assoc, List.append_assoc, dropWhile_blank_append hb,
      ((ho hx).append _).dropWhile, bare_series, hr hx ((hc.stops rest).blank_append ha)]
    simp only [andThen_ite, hc.dropWhile ha, if_true]
  | @more lead t trail d a ts e as hb hx ha hs ih =>
    rw [show lead ++ t ++ trail ++ ',' :: ts ++ b.close :: rest =
        lead ++ (t ++ (trail ++ ',' :: (ts ++ b.close :: rest))) by simp,
      dropWhile_blank_append hb, ((ho hx).append _).dropWhile, bare_series,
      hr hx ((Stops.comma _).blank_append ha)]
    obtain ⟨c, next, hn, hcl⟩ := hs.exists_dropWhile_eq ho hc (b.close :: rest)
    have hcomma : (trail ++ ',' :: (ts ++ b.close :: rest)).dropWhile isBlank =
        ',' :: (ts ++ b.close :: rest) := by
      rw [dropWhile_blank_append ha]
      rfl
    rw [hn] at ih
    simp only [andThen_ite, hcomma, if_neg hc.ne_comma, if_true, hn, if_neg hcl, ih, Nat.max_le]
    by_cases hd : d ≤ n
    · simp only [hd, if_true, true_and]
    · simp only [hd, if_false, false_and]

/-- Items up to their closing bracket are read if none is too deep. -/
theorem bare_items_listed (ho : ∀ {t d a}, spells t d a → Opens t) (hc : b.Closing)
    (hr : ReadsWithin n item spells) {t : List Char} {d : Nat} {as : List α}
    (h : Listed spells t d as) (rest : List Char) :
    bare (items b item (t ++ b.close :: rest)) =
      if d ≤ n then .ok (as, rest) else .error .tooDeep := by
  obtain ⟨c, next, hn, hcl⟩ := h.exists_dropWhile_eq ho hc (b.close :: rest)
  rw [bare_items, ← bare_series_listed ho hc hr h rest, hn]
  exact if_neg hcl

theorem bare_items_blank (hc : b.Closing) {a : List Char} (ha : Blank a) (rest : List Char) :
    bare (items b item (a ++ b.close :: rest)) = .ok ([], rest) := by
  rw [bare_items, hc.dropWhile ha]
  exact if_pos rfl

/-! ## What is read is spelled -/

theorem Listed.blank_append {a t : List Char} (ha : Blank a) {d : Nat} {as : List α}
    (h : Listed spells t d as) : Listed spells (a ++ t) d as := by
  cases h with
  | one hb hx hb' => simpa only [List.append_assoc] using Listed.one (ha.append hb) hx hb'
  | more hb hx hb' hs => simpa only [List.append_assoc] using Listed.more (ha.append hb) hx hb' hs

theorem Listed.exists_of_mem {t : List Char} {d : Nat} {as : List α} (h : Listed spells t d as) {a : α}
    (ha : a ∈ as) : ∃ u e, spells u e a ∧ e ≤ d := by
  induction h with
  | one hb hx hb' =>
    obtain rfl := List.mem_singleton.mp ha
    exact ⟨_, _, hx, Nat.le_refl _⟩
  | more hb hx hb' hs ih =>
    rcases List.mem_cons.mp ha with rfl | ha
    · exact ⟨_, _, hx, Nat.le_max_left _ _⟩
    · obtain ⟨u, e, hu, he⟩ := ih ha
      exact ⟨u, e, hu, Nat.le_trans he (Nat.le_max_right _ _)⟩

theorem exists_of_series (hr : ReadsOnly n item spells) {text rest : List Char} {as : List α}
    (h : bare (series b item text) = .ok (as, rest)) :
    ∃ t d, Listed spells t d as ∧ d ≤ n ∧ text = t ++ b.close :: rest := by
  -- each further item leaves less of the text
  induction hk : text.length using Nat.strongRecOn generalizing text as with
  | ind k ih =>
    rw [bare_series] at h
    obtain ⟨a, left, hi, hnext⟩ := exists_of_andThen h
    obtain ⟨lead, t, d, hlead, ht, hd, rfl⟩ := hr hi
    split at hnext
    · cases hnext
    · rename_i c behind hbehind
      obtain ⟨trail, htrail, rfl⟩ := exists_of_dropWhile_eq_cons hbehind
      split at hnext
      · rename_i hclose
        cases hnext
        exact ⟨_, d, .one hlead ht htrail, hd, by simp [hclose]⟩
      · split at hnext
        · rename_i hcomma
          split at hnext
          · cases hnext
          · rename_i e next hleft
            obtain ⟨gap, hgap, rfl⟩ := exists_of_dropWhile_eq_cons hleft
            split at hnext
            · cases hnext
            · obtain ⟨as', left, hs, hnil⟩ := exists_of_andThen hnext
              cases hnil
              have hlt : (e :: next).length < k := by
                simp only [← hk, List.length_append, List.length_cons]
                omega
              obtain ⟨ts, d', hts, hd', heq⟩ := ih _ hlt hs rfl
              refine ⟨_, _, .more hlead ht htrail (hts.blank_append hgap),
                Nat.max_le.mpr ⟨hd, hd'⟩, ?_⟩
              simp [hcomma, heq]
        · cases hnext

/-- What is read between brackets is blanks or items. -/
theorem exists_of_items (hr : ReadsOnly n item spells) {text rest : List Char} {as : List α}
    (h : bare (items b item text) = .ok (as, rest)) :
    (as = [] ∧ ∃ a, Blank a ∧ text = a ++ b.close :: rest) ∨
      ∃ t d, Listed spells t d as ∧ d ≤ n ∧ text = t ++ b.close :: rest := by
  rw [bare_items] at h
  split at h
  · cases h
  · rename_i c next hnext
    obtain ⟨a, ha, rfl⟩ := exists_of_dropWhile_eq_cons hnext
    split at h
    · rename_i hclose
      cases h
      exact .inl ⟨rfl, a, ha, by rw [hclose]⟩
    · obtain ⟨t, d, ht, hd, heq⟩ := exists_of_series hr h
      exact .inr ⟨a ++ t, d, ht.blank_append ha, hd, by rw [heq, List.append_assoc]⟩

end SessionInventory.Json
