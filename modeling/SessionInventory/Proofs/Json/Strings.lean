import SessionInventory.Json.Printer
import SessionInventory.Json.Reader.String
import SessionInventory.Proofs.Json.Reading

/-!
# Reading strings

Unlike a number, a string says itself where it ends, so every reader here reads a text exactly if it
begins with something spelled: four digits of sixteen (`bare_codeUnit_iff`), what follows a backslash
(`bare_escape_iff`), a character (`bare_stringChar_iff`) and a whole string (`bare_string_iff`).

What `writeString` writes is spelled (`spellsString_writeString`).
-/

namespace SessionInventory.Json

/-! ## Units of sixteen bits -/

theorem hexDigit?_digitChar :
    ∀ n < 16, hexDigit? n.digitChar = some n ∧ hexDigit? n.digitChar.toUpper = some n := by decide

theorem isHexDigit_ofNat : ∀ m < 103, ∀ n ∈ hexDigit? (Char.ofNat m),
    n < 16 ∧ (Char.ofNat m = n.digitChar ∨ Char.ofNat m = n.digitChar.toUpper) := by decide

theorem hexDigit?_eq_none {c : Char} (h : 'f'.toNat < c.toNat) : hexDigit? c = none := by
  have beyond {d : Char} (hd : d.toNat ≤ 'f'.toNat) : ¬c ≤ d := by
    rw [Char.le_def, UInt32.le_iff_toNat_le]
    exact Nat.not_le_of_lt (Nat.lt_of_le_of_lt hd h)
  rw [hexDigit?, if_neg fun hc => beyond (by decide) hc.2, if_neg fun hc => beyond (by decide) hc.2,
    if_neg fun hc => beyond (by decide) hc.2]

theorem hexDigit?_iff {c : Char} {n : Nat} : hexDigit? c = some n ↔ IsHexDigit c n := by
  constructor
  · intro h
    by_cases hc : c.toNat < 103
    · have hdigit := isHexDigit_ofNat c.toNat hc
      rw [Char.ofNat_toNat] at hdigit
      exact hdigit n h
    · rw [hexDigit?_eq_none (Nat.le_of_not_lt hc)] at h
      cases h
  · rintro ⟨hn, rfl | rfl⟩
    · exact (hexDigit?_digitChar n hn).1
    · exact (hexDigit?_digitChar n hn).2

theorem SpellsUnit.lt {t : List Char} {n : Nat} (h : SpellsUnit t n) : n < 0x10000 := by
  obtain ⟨⟨ha, -⟩, ⟨hb, -⟩, ⟨hc, -⟩, ⟨hd, -⟩⟩ := h
  omega

/-- Four digits of sixteen are read, and nothing else. -/
theorem bare_codeUnit_iff {text rest : List Char} {n : Nat} :
    bare (codeUnit text) = .ok (n, rest) ↔ ∃ t, SpellsUnit t n ∧ text = t ++ rest := by
  constructor
  · intro h
    match text with
    | [] | [_] | [_, _] | [_, _, _] => cases h
    | a :: b :: c :: d :: back =>
      rw [codeUnit] at h
      split at h
      · rename_i ha hb hc hd
        cases h
        exact ⟨_, .mk (hexDigit?_iff.mp ha) (hexDigit?_iff.mp hb) (hexDigit?_iff.mp hc)
          (hexDigit?_iff.mp hd), rfl⟩
      · cases h
  · rintro ⟨_, ⟨ha, hb, hc, hd⟩, rfl⟩
    simp only [List.cons_append, List.nil_append, codeUnit, hexDigit?_iff.mpr ha,
      hexDigit?_iff.mpr hb, hexDigit?_iff.mpr hc, hexDigit?_iff.mpr hd, bare_ok]

theorem isFirstHalf_iff {unit : Nat} : isFirstHalf unit = true ↔ 0xD800 ≤ unit ∧ unit < 0xDC00 := by
  simp only [isFirstHalf, Bool.and_eq_true, decide_eq_true_eq]
  omega

theorem isSecondHalf_iff {unit : Nat} :
    isSecondHalf unit = true ↔ 0xDC00 ≤ unit ∧ unit < 0xE000 := by
  simp only [isSecondHalf, Bool.and_eq_true, decide_eq_true_eq]
  omega

theorem bare_secondHalf_cons (rest : List Char) :
    bare (secondHalf ('\\' :: 'u' :: rest)) = andThen (bare (codeUnit rest)) fun unit r =>
      if isSecondHalf unit then .ok (unit, r) else .error .loneSurrogate := by
  rw [secondHalf]
  cases codeUnit rest with
  | error fault => rfl
  | ok p =>
    obtain ⟨unit, r⟩ := p
    simp only [bare_ok, andThen_ok]
    split <;> rfl

theorem exists_of_secondHalf {text rest : List Char} {n : Nat}
    (h : bare (secondHalf text) = .ok (n, rest)) : ∃ back, text = '\\' :: 'u' :: back := by
  match text with
  | [] | ['\\'] => cases h
  | c :: d :: back =>
    by_cases hc : c = '\\'
    · subst hc
      by_cases hd : d = 'u'
      · exact ⟨back, by rw [hd]⟩
      · rw [secondHalf.eq_4 _ (by simp) (by simpa using hd)] at h
        cases h
    · rw [secondHalf.eq_5] at h
      · cases h
      all_goals simp [hc]
  | [c] =>
    by_cases hc : c = '\\'
    · subst hc
      cases h
    · rw [secondHalf.eq_5] at h
      · cases h
      all_goals simp [hc]

theorem bare_secondHalf_iff {text rest : List Char} {n : Nat} :
    bare (secondHalf text) = .ok (n, rest) ↔
      ∃ u, SpellsUnit u n ∧ (0xDC00 ≤ n ∧ n < 0xE000) ∧ text = '\\' :: 'u' :: u ++ rest := by
  constructor
  · intro h
    obtain ⟨back, rfl⟩ := exists_of_secondHalf h
    rw [bare_secondHalf_cons] at h
    obtain ⟨unit, r, hu, hnext⟩ := exists_of_andThen h
    split at hnext
    · rename_i hs
      cases hnext
      obtain ⟨u, hspelled, rfl⟩ := bare_codeUnit_iff.mp hu
      exact ⟨u, hspelled, isSecondHalf_iff.mp hs, rfl⟩
    · cases hnext
  · rintro ⟨u, hu, hs, rfl⟩
    rw [List.cons_append, List.cons_append, bare_secondHalf_cons, bare_codeUnit_iff.mpr ⟨u, hu, rfl⟩,
      andThen_ok]
    exact if_pos (isSecondHalf_iff.mpr hs)

/-! ## Escapes -/

theorem toNat_joinHalves {first second : Nat} (hf : 0xD800 ≤ first ∧ first < 0xDC00)
    (hs : 0xDC00 ≤ second ∧ second < 0xE000) :
    (joinHalves first second).toNat = 0x10000 + (first - 0xD800) * 0x400 + (second - 0xDC00) :=
  Utf8.toNat_ofNat (.inr (by omega))

theorem bare_numbered (text : List Char) :
    bare (numbered text) = andThen (bare (codeUnit text)) fun unit r =>
      if isSecondHalf unit then .error .loneSurrogate
      else if isFirstHalf unit then
        andThen (bare (secondHalf r)) fun second s => .ok (joinHalves unit second, s)
      else .ok (Char.ofNat unit, r) := by
  rw [numbered]
  cases codeUnit text with
  | error fault => rfl
  | ok p =>
    obtain ⟨unit, r⟩ := p
    simp only [bare_ok, andThen_ok]
    by_cases hs : isSecondHalf unit = true
    · rw [if_pos hs, if_pos hs]
      rfl
    · rw [if_neg hs, if_neg hs]
      by_cases hf : isFirstHalf unit = true
      · rw [if_pos hf, if_pos hf]
        cases secondHalf r.1 <;> rfl
      · rw [if_neg hf, if_neg hf, bare_ok]

/-- A unit that is no half of a pair is the number of a character. -/
theorem exists_of_numbered {text rest : List Char} {c : Char}
    (h : bare (numbered text) = .ok (c, rest)) :
    ∃ t, SpellsChar ('\\' :: 'u' :: t) c ∧ text = t ++ rest := by
  rw [bare_numbered] at h
  obtain ⟨unit, r, hu, hnext⟩ := exists_of_andThen h
  obtain ⟨t, ht, rfl⟩ := bare_codeUnit_iff.mp hu
  split at hnext
  · cases hnext
  · rename_i hs
    split at hnext
    · rename_i hf
      obtain ⟨second, r', hsecond, hjoin⟩ := exists_of_andThen hnext
      obtain ⟨u, hspelled, hs, rfl⟩ := bare_secondHalf_iff.mp hsecond
      obtain ⟨rfl, rfl⟩ := Prod.mk.inj (Except.ok.inj hjoin)
      have hf := isFirstHalf_iff.mp hf
      exact ⟨_, .pair ht hspelled hf hs (toNat_joinHalves hf hs), by simp⟩
    · rename_i hf
      cases hnext
      rw [isSecondHalf_iff] at hs
      rw [isFirstHalf_iff] at hf
      have hlt := ht.lt
      exact ⟨t, .unit ht (Utf8.toNat_ofNat (by simp only [Nat.isValidChar]; omega)), rfl⟩

theorem toNat_not_half (c : Char) :
    isFirstHalf c.toNat = false ∧ isSecondHalf c.toNat = false := by
  have hvalid : c.toNat.isValidChar := c.valid
  simp only [← Bool.not_eq_true, isFirstHalf_iff, isSecondHalf_iff]
  simp only [Nat.isValidChar] at hvalid
  omega

theorem bare_numbered_unit {t rest : List Char} {c : Char} (ht : SpellsUnit t c.toNat) :
    bare (numbered (t ++ rest)) = .ok (c, rest) := by
  rw [bare_numbered, bare_codeUnit_iff.mpr ⟨t, ht, rfl⟩]
  simp only [andThen_ok, toNat_not_half, Bool.false_eq_true, if_false, Char.ofNat_toNat]

theorem bare_numbered_pair {t u rest : List Char} {first second : Nat} {c : Char}
    (ht : SpellsUnit t first) (hu : SpellsUnit u second) (hf : 0xD800 ≤ first ∧ first < 0xDC00)
    (hs : 0xDC00 ≤ second ∧ second < 0xE000)
    (hc : c.toNat = 0x10000 + (first - 0xD800) * 0x400 + (second - 0xDC00)) :
    bare (numbered (t ++ ('\\' :: 'u' :: u ++ rest))) = .ok (c, rest) := by
  have hn : ¬isSecondHalf first = true := by
    rw [isSecondHalf_iff]
    omega
  have hjoin : joinHalves first second = c := by
    rw [joinHalves, ← hc, Char.ofNat_toNat]
  rw [bare_numbered, bare_codeUnit_iff.mpr ⟨t, ht, rfl⟩]
  simp only [andThen_ok, if_neg hn, if_pos (isFirstHalf_iff.mpr hf),
    bare_secondHalf_iff.mpr ⟨u, hu, hs, rfl⟩, hjoin]

theorem shortEscape?_of_mem : ∀ p ∈ shortEscapes, shortEscape? p.1 = some p.2 := by decide

theorem shortEscape?_iff {l c : Char} : shortEscape? l = some c ↔ (l, c) ∈ shortEscapes := by
  constructor
  · intro h
    rw [shortEscape?] at h
    split at h
    · rename_i hl
      cases h
      rcases hl with rfl | rfl | rfl <;> decide
    · repeat' split at h
      all_goals cases h
      all_goals subst l
      all_goals decide
  · exact shortEscape?_of_mem (l, c)

theorem bare_escape_cons (c : Char) (rest : List Char) :
    bare (escape (c :: rest)) =
      if c = 'u' then bare (numbered rest)
      else match shortEscape? c with
        | some d => .ok (d, rest)
        | none => .error .invalidEscape := by
  rw [escape]
  by_cases hu : c = 'u'
  · rw [if_pos hu, if_pos hu]
    cases numbered rest <;> rfl
  · rw [if_neg hu, if_neg hu]
    cases shortEscape? c <;> rfl

/-- What follows a backslash is read if the two spell a character, and nothing else. -/
theorem bare_escape_iff {text rest : List Char} {c : Char} :
    bare (escape text) = .ok (c, rest) ↔ ∃ t, SpellsChar ('\\' :: t) c ∧ text = t ++ rest := by
  constructor
  · intro h
    cases text with
    | nil => cases h
    | cons l back =>
      rw [bare_escape_cons] at h
      split at h
      · rename_i hu
        obtain ⟨t, ht, rfl⟩ := exists_of_numbered h
        exact ⟨'u' :: t, ht, by rw [hu]; rfl⟩
      · split at h
        · rename_i d hd
          cases h
          exact ⟨[l], .short (shortEscape?_iff.mp hd), rfl⟩
        · cases h
  · rintro ⟨t, ht, rfl⟩
    cases ht with
    | plain hq hb hc => exact absurd rfl hb
    | @short l _ h =>
      have hu : l ≠ 'u' := by
        rintro rfl
        simp [shortEscapes] at h
      rw [List.singleton_append, bare_escape_cons, if_neg hu]
      simp only [shortEscape?_iff.mpr h]
    | unit h hc =>
      rw [List.cons_append, bare_escape_cons, if_pos rfl]
      exact bare_numbered_unit (hc ▸ h)
    | @pair t u _ _ _ ht hu hf hs hc =>
      show bare (escape ('u' :: (t ++ '\\' :: 'u' :: u ++ rest))) = .ok (c, rest)
      rw [List.append_assoc, bare_escape_cons, if_pos rfl]
      exact bare_numbered_pair ht hu hf hs hc

/-! ## Characters and strings -/

theorem bare_stringChar_cons (c : Char) (rest : List Char) :
    bare (stringChar (c :: rest)) =
      if c = '\\' then bare (escape rest)
      else if c < ' ' then .error .controlCharacter
      else .ok (c, rest) := by
  rw [stringChar]
  by_cases hb : c = '\\'
  · rw [if_pos hb, if_pos hb]
    cases escape rest <;> rfl
  · rw [if_neg hb, if_neg hb]
    split <;> rfl

theorem SpellsChar.exists_cons {t : List Char} {c : Char} (h : SpellsChar t c) :
    ∃ d rest, t = d :: rest ∧ d ≠ '"' := by
  cases h with
  | plain hq hb hc => exact ⟨c, [], rfl, hq⟩
  | short h => exact ⟨'\\', _, rfl, by decide⟩
  | unit h hc => exact ⟨'\\', _, rfl, by decide⟩
  | pair ht hu hf hs hc => exact ⟨'\\', _, rfl, by decide⟩

theorem bare_stringChar_iff {text rest : List Char} {c : Char} (hq : text.head? ≠ some '"') :
    bare (stringChar text) = .ok (c, rest) ↔ ∃ t, SpellsChar t c ∧ text = t ++ rest := by
  cases text with
  | nil =>
    constructor
    · intro h
      cases h
    · rintro ⟨t, ht, h⟩
      obtain ⟨d, back, rfl, -⟩ := ht.exists_cons
      cases h
  | cons d back =>
    rw [bare_stringChar_cons]
    by_cases hb : d = '\\'
    · rw [if_pos hb, bare_escape_iff, hb]
      constructor
      · rintro ⟨t, ht, rfl⟩
        exact ⟨_, ht, rfl⟩
      · rintro ⟨t, ht, h⟩
        obtain ⟨e, t, rfl, -⟩ := ht.exists_cons
        obtain ⟨rfl, rfl⟩ := List.cons.inj h
        exact ⟨t, ht, rfl⟩
    · rw [if_neg hb]
      constructor
      · intro h
        split at h
        · cases h
        · rename_i hc
          cases h
          exact ⟨[_], .plain (by simpa using hq) hb (Char.not_lt.mp hc), rfl⟩
      · rintro ⟨t, ht, h⟩
        cases ht with
        | plain _ _ hc =>
          obtain ⟨rfl, rfl⟩ := List.cons.inj h
          exact if_neg (Char.not_lt.mpr hc)
        -- everything else begins with a backslash
        | short _ => exact absurd (List.cons.inj h).1 hb
        | unit _ _ => exact absurd (List.cons.inj h).1 hb
        | pair _ _ _ _ _ => exact absurd (List.cons.inj h).1 hb

theorem bare_stringChars_quote (rest : List Char) :
    bare (stringChars ('"' :: rest)) = .ok ([], rest) := by
  rw [stringChars]
  rfl

theorem bare_stringChars_of_ne {text : List Char} (hq : text.head? ≠ some '"') :
    bare (stringChars text) = andThen (bare (stringChar text)) fun c rest =>
      andThen (bare (stringChars rest)) fun cs r => .ok (c :: cs, r) := by
  rw [stringChars.eq_2 text fun rest heq => hq (by rw [heq]; rfl)]
  cases stringChar text with
  | error fault => rfl
  | ok p =>
    obtain ⟨c, rest, h⟩ := p
    simp only [bare_ok, andThen_ok]
    cases stringChars rest <;> rfl

theorem exists_of_stringChars {text rest cs : List Char}
    (h : bare (stringChars text) = .ok (cs, rest)) :
    ∃ t, SpellsChars t cs ∧ text = t ++ '"' :: rest := by
  -- each character leaves less of the text
  induction hk : text.length using Nat.strongRecOn generalizing text cs with
  | ind k ih =>
    by_cases hq : text.head? = some '"'
    · obtain ⟨back, rfl⟩ := List.head?_eq_some_iff.mp hq
      rw [bare_stringChars_quote] at h
      cases h
      exact ⟨[], .nil, rfl⟩
    · rw [bare_stringChars_of_ne hq] at h
      obtain ⟨c, left, hc, hnext⟩ := exists_of_andThen h
      obtain ⟨cs, r, hs, heq⟩ := exists_of_andThen hnext
      cases heq
      have hlt := length_lt_of_bare hc
      obtain ⟨t, ht, rfl⟩ := (bare_stringChar_iff hq).mp hc
      obtain ⟨ts, hts, rfl⟩ := ih _ (hk ▸ hlt) hs rfl
      exact ⟨t ++ ts, .cons ht hts, by rw [List.append_assoc]⟩

theorem bare_stringChars_spelled {t cs : List Char} (h : SpellsChars t cs) (rest : List Char) :
    bare (stringChars (t ++ '"' :: rest)) = .ok (cs, rest) := by
  induction h with
  | nil => exact bare_stringChars_quote rest
  | @cons t ts c cs h hs ih =>
    have hq : (t ++ (ts ++ '"' :: rest)).head? ≠ some '"' := by
      obtain ⟨d, back, rfl, hd⟩ := h.exists_cons
      simpa using hd
    rw [List.append_assoc, bare_stringChars_of_ne hq, (bare_stringChar_iff hq).mpr ⟨t, h, rfl⟩,
      andThen_ok, ih, andThen_ok]

/-- A string is read behind its opening quote if it is spelled with it, and nothing else. -/
theorem bare_string_iff {text rest : List Char} {s : String} :
    bare (string text) = .ok (s, rest) ↔ ∃ t, SpellsString ('"' :: t) s ∧ text = t ++ rest := by
  have hstring : bare (string text) =
      andThen (bare (stringChars text)) fun cs r => .ok (String.ofList cs, r) := by
    rw [string]
    cases stringChars text <;> rfl
  rw [hstring]
  constructor
  · intro h
    obtain ⟨cs, r, hcs, hnext⟩ := exists_of_andThen h
    cases hnext
    obtain ⟨t, ht, rfl⟩ := exists_of_stringChars hcs
    exact ⟨t ++ ['"'], .mk ht, by simp⟩
  · rintro ⟨t, ht, rfl⟩
    cases ht with
    | @mk t cs h =>
      rw [show t.append ['"'] ++ rest = t ++ '"' :: rest by simp, bare_stringChars_spelled h,
        andThen_ok]

theorem SpellsString.exists_cons {t : List Char} {s : String} (h : SpellsString t s) :
    ∃ rest, t = '"' :: rest := by
  obtain ⟨ht⟩ := h
  exact ⟨_, rfl⟩

/-! ## Written strings -/

theorem spellsUnit_control {n : Nat} (h : n < 32) :
    SpellsUnit ['0', '0', Nat.digitChar (n / 16), Nat.digitChar (n % 16)] n := by
  have zero : IsHexDigit '0' 0 := ⟨by decide, .inl rfl⟩
  have high : IsHexDigit (Nat.digitChar (n / 16)) (n / 16) := ⟨by omega, .inl rfl⟩
  have low : IsHexDigit (Nat.digitChar (n % 16)) (n % 16) := ⟨by omega, .inl rfl⟩
  have hunit := SpellsUnit.mk zero zero high low
  rwa [show ((0 * 16 + 0) * 16 + n / 16) * 16 + n % 16 = n by omega] at hunit

theorem spellsChar_escaped (c : Char) : SpellsChar (escaped c) c := by
  unfold escaped
  split
  · subst c
    exact .short (by decide)
  · rename_i hq
    split
    · subst c
      exact .short (by decide)
    · rename_i hb
      iterate 5
        split
        · subst c
          exact .short (by decide)
      split
      · rename_i hc
        rw [Char.lt_def, UInt32.lt_iff_toNat_lt] at hc
        exact .unit (spellsUnit_control hc) rfl
      · rename_i hc
        exact .plain hq hb (Char.not_lt.mp hc)

theorem spellsString_writeString (s : String) : SpellsString (writeString s) s := by
  have hchars (cs : List Char) : SpellsChars (cs.flatMap escaped) cs := by
    induction cs with
    | nil => exact .nil
    | cons c cs ih => exact .cons (spellsChar_escaped c) ih
  have hstring := SpellsString.mk (hchars s.toList)
  rwa [String.ofList_toList] at hstring

end SessionInventory.Json
