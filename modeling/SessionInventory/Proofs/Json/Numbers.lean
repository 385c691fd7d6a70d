import SessionInventory.Json.Reader.Number
import SessionInventory.Proofs.Json.Reading

/-!
# Reading numbers

Each part of a literal is read to its end: the readers of digits and of the part before the point
take exactly what is spelled up to the first other character (`bare_someDigits_iff`,
`bare_integerPart_iff`). `bare_number` reads a spelled literal whose value is in range, and
`exists_of_number` says that nothing else is read.
-/

namespace SessionInventory.Json

/-! ## Digits -/

/-- A text that does not begin with a digit. -/
def NoDigit (text : List Char) : Prop := ∀ c ∈ text.head?, c.isDigit = false

theorem Stops.noDigit {text : List Char} (h : Stops text) : NoDigit text := fun c hc => (h c hc).1

theorem NoDigit.cons {c : Char} (h : c.isDigit = false) (rest : List Char) : NoDigit (c :: rest) :=
  fun d hd => by
    obtain rfl : c = d := by simpa using hd
    exact h

theorem digits_eq_nil_iff {text : List Char} : digits text = [] ↔ NoDigit text := by
  cases text with
  | nil => simp [digits, NoDigit]
  | cons c rest => cases hc : c.isDigit <;> simp [digits, NoDigit, hc]

theorem noDigit_dropWhile (text : List Char) : NoDigit (text.dropWhile Char.isDigit) := by
  intro c hc
  have := List.head?_dropWhile_not Char.isDigit text
  rwa [Option.mem_def.mp hc] at this

theorem takeWhile_digits {ds rest : List Char} (hd : ∀ c ∈ ds, c.isDigit) (hr : NoDigit rest) :
    (ds ++ rest).takeWhile Char.isDigit = ds ∧ (ds ++ rest).dropWhile Char.isDigit = rest := by
  rw [List.takeWhile_append_of_pos hd, List.dropWhile_append_of_pos hd]
  cases rest with
  | nil => simp
  | cons c rest =>
    have hc : ¬c.isDigit = true := by simp [hr c rfl]
    rw [List.takeWhile_cons_of_neg hc, List.dropWhile_cons_of_neg hc, List.append_nil]
    exact ⟨rfl, rfl⟩

theorem isDigit_of_mem_digits {text : List Char} : ∀ c ∈ digits text, c.isDigit :=
  List.all_eq_true.mp List.all_takeWhile

theorem bare_someDigits (text : List Char) :
    bare (someDigits text) = if digits text = [] then .error (noDigit text).flaw
      else .ok (digits text, text.dropWhile Char.isDigit) := by
  rw [someDigits]
  split <;> rfl

/-- The digits at the front of a text are read, if there are any. -/
theorem bare_someDigits_iff {text ds rest : List Char} :
    bare (someDigits text) = .ok (ds, rest) ↔ Digits ds ∧ text = ds ++ rest ∧ NoDigit rest := by
  rw [bare_someDigits]
  constructor
  · intro h
    split at h
    · cases h
    · rename_i hne
      cases h
      exact ⟨⟨hne, isDigit_of_mem_digits⟩, List.takeWhile_append_dropWhile.symm,
        noDigit_dropWhile text⟩
  · rintro ⟨⟨hne, hd⟩, rfl, hr⟩
    obtain ⟨ht, hdrop⟩ := takeWhile_digits hd hr
    rw [digits, ht, if_neg hne, hdrop]

/-! ## The parts of a literal -/

theorem bare_integerPart_cons (d : Char) (rest : List Char) :
    bare (integerPart (d :: rest)) =
      if d = '0' then if digits rest = [] then .ok (['0'], rest) else .error .invalidNumber
      else if d.isDigit then .ok (d :: digits rest, rest.dropWhile Char.isDigit)
      else .error (noDigit (d :: rest)).flaw := by
  by_cases hz : d = '0'
  · subst hz
    rw [if_pos rfl, integerPart]
    split <;> rfl
  · rw [if_neg hz, integerPart.eq_2 _ _ hz]
    split <;> rfl

/-- The part before the point is read up to the first other character. -/
theorem bare_integerPart_iff {text ds rest : List Char} :
    bare (integerPart text) = .ok (ds, rest) ↔
      SpellsInteger ds ∧ text = ds ++ rest ∧ NoDigit rest := by
  constructor
  · intro h
    cases text with
    | nil => cases h
    | cons d back =>
      rw [bare_integerPart_cons] at h
      split at h
      · rename_i hz
        split at h
        · rename_i hn
          cases h
          exact ⟨.zero, by rw [hz]; rfl, digits_eq_nil_iff.mp hn⟩
        · cases h
      · rename_i hz
        split at h
        · rename_i hd
          cases h
          refine ⟨.digits ⟨by simp, ?_⟩ (by simpa using hz), ?_, noDigit_dropWhile back⟩
          · exact List.forall_mem_cons.mpr ⟨hd, isDigit_of_mem_digits⟩
          · exact congrArg (d :: ·) List.takeWhile_append_dropWhile.symm
        · cases h
  · rintro ⟨hi, rfl, hr⟩
    cases hi with
    | zero => rw [List.cons_append, bare_integerPart_cons, if_pos rfl, List.nil_append,
        if_pos (digits_eq_nil_iff.mpr hr)]
    | digits hd hz =>
      obtain ⟨hne, hd⟩ := hd
      obtain ⟨d, ds, rfl⟩ := List.exists_cons_of_ne_nil hne
      obtain ⟨hd, hds⟩ := List.forall_mem_cons.mp hd
      obtain ⟨ht, hdrop⟩ := takeWhile_digits hds hr
      rw [List.cons_append, bare_integerPart_cons, if_neg (by simpa using hz), if_pos hd, digits, ht,
        hdrop]

theorem bare_fractionPart_point (rest : List Char) :
    bare (fractionPart ('.' :: rest)) = bare (someDigits rest) := by
  rw [fractionPart]
  cases someDigits rest <;> rfl

theorem bare_fractionPart_of_ne {text : List Char} (h : text.head? ≠ some '.') :
    bare (fractionPart text) = .ok ([], text) := by
  rw [fractionPart.eq_2 text fun rest heq => h (by rw [heq]; rfl)]
  rfl

theorem bare_fractionPart {f fraction rest : List Char} (hf : SpellsFraction f fraction)
    (hd : NoDigit rest) (hp : rest.head? ≠ some '.') :
    bare (fractionPart (f ++ rest)) = .ok (fraction, rest) := by
  cases hf with
  | absent => exact bare_fractionPart_of_ne hp
  | present h =>
    rw [List.cons_append, bare_fractionPart_point]
    exact bare_someDigits_iff.mpr ⟨h, rfl, hd⟩

theorem exists_of_fractionPart {text fraction rest : List Char}
    (h : bare (fractionPart text) = .ok (fraction, rest)) :
    ∃ f, SpellsFraction f fraction ∧ text = f ++ rest := by
  by_cases hp : text.head? = some '.'
  · obtain ⟨back, rfl⟩ := List.head?_eq_some_iff.mp hp
    rw [bare_fractionPart_point] at h
    obtain ⟨hd, rfl, -⟩ := bare_someDigits_iff.mp h
    exact ⟨_, .present hd, rfl⟩
  · rw [bare_fractionPart_of_ne hp] at h
    cases h
    exact ⟨[], .absent, rfl⟩

/-! ## Exponents -/

theorem exponentSign_plus (rest : List Char) :
    (exponentSign ('+' :: rest)).1 = false ∧ (exponentSign ('+' :: rest)).2.1 = rest := ⟨rfl, rfl⟩

theorem exponentSign_minus (rest : List Char) :
    (exponentSign ('-' :: rest)).1 = true ∧ (exponentSign ('-' :: rest)).2.1 = rest := ⟨rfl, rfl⟩

theorem exponentSign_of_ne {text : List Char} (hp : text.head? ≠ some '+')
    (hm : text.head? ≠ some '-') :
    (exponentSign text).1 = false ∧ (exponentSign text).2.1 = text := by
  rw [exponentSign.eq_3 text (fun rest heq => hp (by rw [heq]; rfl))
    fun rest heq => hm (by rw [heq]; rfl)]
  exact ⟨rfl, rfl⟩

theorem bare_exponentPart_cons (c : Char) (rest : List Char) :
    bare (exponentPart (c :: rest)) =
      if c = 'e' ∨ c = 'E' then
        andThen (bare (someDigits (exponentSign rest).2.1)) fun ds r =>
          .ok (some ⟨(exponentSign rest).1, ds⟩, r)
      else .ok (none, c :: rest) := by
  rw [exponentPart]
  by_cases hc : c = 'e' ∨ c = 'E'
  · rw [if_pos hc, if_pos hc]
    generalize exponentSign rest = sign
    obtain ⟨negative, signed⟩ := sign
    dsimp only
    cases someDigits signed.1 <;> rfl
  · rw [if_neg hc, if_neg hc]
    rfl

theorem bare_exponentPart_of_ne {text : List Char}
    (h : text.head? ≠ some 'e' ∧ text.head? ≠ some 'E') :
    bare (exponentPart text) = .ok (none, text) := by
  cases text with
  | nil => rfl
  | cons c rest =>
    rw [bare_exponentPart_cons, if_neg]
    simpa using h

/-- An exponent whose digits come behind whatever sign is read. -/
theorem bare_exponentPart_of_digits {e : Char} {text ds rest : List Char} (he : e = 'e' ∨ e = 'E')
    (hd : Digits ds) (hr : NoDigit rest) (ht : (exponentSign text).2.1 = ds ++ rest) :
    bare (exponentPart (e :: text)) = .ok (some ⟨(exponentSign text).1, ds⟩, rest) := by
  rw [bare_exponentPart_cons, if_pos he, ht, bare_someDigits_iff.mpr ⟨hd, rfl, hr⟩, andThen_ok]

theorem Digits.head?_ne {ds : List Char} (hd : Digits ds) {c : Char} (hc : c.isDigit = false)
    (rest : List Char) : (ds ++ rest).head? ≠ some c := by
  obtain ⟨hne, hd⟩ := hd
  obtain ⟨d, ds, rfl⟩ := List.exists_cons_of_ne_nil hne
  intro h
  obtain rfl : d = c := by simpa using h
  simpa [hc] using hd d List.mem_cons_self

theorem bare_exponentPart {x rest : List Char} {exponent : Option Exponent}
    (hx : SpellsExponent x exponent) (hr : Stops rest) :
    bare (exponentPart (x ++ rest)) = .ok (exponent, rest) := by
  cases hx with
  | absent => exact bare_exponentPart_of_ne ⟨fun h => (hr _ h).2.2.1 rfl, fun h => (hr _ h).2.2.2 rfl⟩
  | plain he hd =>
    obtain ⟨hs, ht⟩ := exponentSign_of_ne (hd.head?_ne (by decide) rest) (hd.head?_ne (by decide) rest)
    rw [List.cons_append, bare_exponentPart_of_digits he hd hr.noDigit ht, hs]
  | plus he hd => exact bare_exponentPart_of_digits he hd hr.noDigit (exponentSign_plus _).2
  | minus he hd => exact bare_exponentPart_of_digits he hd hr.noDigit (exponentSign_minus _).2

/-- Behind the letter of an exponent come digits, perhaps with a sign. -/
theorem spellsExponent_of_sign {e : Char} {text ds rest : List Char} (he : e = 'e' ∨ e = 'E')
    (hd : Digits ds) (ht : (exponentSign text).2.1 = ds ++ rest) :
    ∃ x, SpellsExponent x (some ⟨(exponentSign text).1, ds⟩) ∧ e :: text = x ++ rest := by
  by_cases hp : text.head? = some '+'
  · obtain ⟨back, rfl⟩ := List.head?_eq_some_iff.mp hp
    obtain rfl : back = ds ++ rest := ht
    exact ⟨_, .plus he hd, rfl⟩
  · by_cases hm : text.head? = some '-'
    · obtain ⟨back, rfl⟩ := List.head?_eq_some_iff.mp hm
      obtain rfl : back = ds ++ rest := ht
      exact ⟨_, .minus he hd, rfl⟩
    · obtain ⟨hs, hb⟩ := exponentSign_of_ne hp hm
      rw [hs]
      exact ⟨_, .plain he hd, by rw [← hb, ht]; rfl⟩

theorem exists_of_exponentPart {text rest : List Char} {exponent : Option Exponent}
    (h : bare (exponentPart text) = .ok (exponent, rest)) :
    ∃ x, SpellsExponent x exponent ∧ text = x ++ rest := by
  cases text with
  | nil =>
    cases h
    exact ⟨[], .absent, rfl⟩
  | cons c back =>
    rw [bare_exponentPart_cons] at h
    split at h
    · rename_i he
      obtain ⟨ds, r, hs, hnext⟩ := exists_of_andThen h
      obtain ⟨hd, ht, -⟩ := bare_someDigits_iff.mp hs
      cases hnext
      exact spellsExponent_of_sign he hd ht
    · cases h
      exact ⟨[], .absent, rfl⟩

/-! ## Literals -/

theorem bare_unsignedLiteral (negative : Bool) (text : List Char) :
    bare (unsignedLiteral negative text) = andThen (bare (integerPart text)) fun integer r =>
      andThen (bare (fractionPart r)) fun fraction s =>
        andThen (bare (exponentPart s)) fun exponent t =>
          .ok (⟨negative, integer, fraction, exponent⟩, t) := by
  rw [unsignedLiteral]
  cases integerPart text with
  | error fault => rfl
  | ok p =>
    obtain ⟨integer, r⟩ := p
    simp only [bare_ok, andThen_ok]
    cases fractionPart r.1 with
    | error fault => rfl
    | ok p =>
      obtain ⟨fraction, s⟩ := p
      simp only [bare_ok, andThen_ok]
      cases exponentPart s.1 <;> rfl

theorem bare_literal_minus (rest : List Char) :
    bare (literal ('-' :: rest)) = bare (unsignedLiteral true rest) := by
  rw [literal]
  cases unsignedLiteral true rest <;> rfl

theorem bare_literal_of_ne {text : List Char} (h : text.head? ≠ some '-') :
    bare (literal text) = bare (unsignedLiteral false text) := by
  rw [literal.eq_2 text fun rest heq => h (by rw [heq]; rfl)]

theorem bare_number (text : List Char) :
    bare (number text) = andThen (bare (literal text)) fun l rest =>
      match l.value? with
      | some n => .ok (n, rest)
      | none => .error .numberOutOfRange := by
  rw [number]
  cases literal text with
  | error fault => rfl
  | ok p =>
    obtain ⟨l, r⟩ := p
    simp only [bare_ok, andThen_ok]
    cases l.value? <;> rfl

/-- Behind a fraction and an exponent no digit of the part before them is left. -/
theorem SpellsExponent.append {x rest : List Char} {exponent : Option Exponent}
    (hx : SpellsExponent x exponent) (hr : Stops rest) :
    NoDigit (x ++ rest) ∧ (x ++ rest).head? ≠ some '.' := by
  have letter {e : Char} (he : e = 'e' ∨ e = 'E') (back : List Char) :
      NoDigit (e :: back) ∧ (e :: back).head? ≠ some '.' := by
    rcases he with rfl | rfl <;> exact ⟨.cons (by decide) back, by simp⟩
  cases hx with
  | absent => exact ⟨hr.noDigit, fun h => (hr _ h).2.1 rfl⟩
  | plain he hd => exact letter he _
  | plus he hd => exact letter he _
  | minus he hd => exact letter he _

theorem SpellsFraction.append {f fraction rest : List Char} (hf : SpellsFraction f fraction)
    (hr : NoDigit rest) : NoDigit (f ++ rest) := by
  cases hf with
  | absent => exact hr
  | present hd => exact .cons (by decide) _

theorem bare_unsignedLiteral_spelled (negative : Bool) {integer f fraction x rest : List Char}
    {exponent : Option Exponent} (hi : SpellsInteger integer) (hf : SpellsFraction f fraction)
    (hx : SpellsExponent x exponent) (hr : Stops rest) :
    bare (unsignedLiteral negative (integer ++ f ++ x ++ rest)) =
      .ok (⟨negative, integer, fraction, exponent⟩, rest) := by
  obtain ⟨hd, hp⟩ := hx.append hr
  have hinteger := bare_integerPart_iff.mpr ⟨hi, rfl, hf.append hd⟩
  have hfraction := bare_fractionPart hf hd hp
  rw [List.append_assoc, List.append_assoc, bare_unsignedLiteral, hinteger]
  simp only [andThen_ok, hfraction, bare_exponentPart hx hr]

theorem exists_of_unsignedLiteral {negative : Bool} {text rest : List Char} {l : Literal}
    (h : bare (unsignedLiteral negative text) = .ok (l, rest)) :
    ∃ integer f fraction x exponent, SpellsInteger integer ∧ SpellsFraction f fraction ∧
      SpellsExponent x exponent ∧ l = ⟨negative, integer, fraction, exponent⟩ ∧
      text = integer ++ f ++ x ++ rest := by
  rw [bare_unsignedLiteral] at h
  obtain ⟨integer, r, hi, h₁⟩ := exists_of_andThen h
  obtain ⟨hinteger, rfl, -⟩ := bare_integerPart_iff.mp hi
  obtain ⟨fraction, s, hf, h₂⟩ := exists_of_andThen h₁
  obtain ⟨f, hfraction, rfl⟩ := exists_of_fractionPart hf
  obtain ⟨exponent, t, hx, h₃⟩ := exists_of_andThen h₂
  obtain ⟨x, hexponent, rfl⟩ := exists_of_exponentPart hx
  cases h₃
  exact ⟨integer, f, fraction, x, exponent, hinteger, hfraction, hexponent, rfl,
    by simp only [List.append_assoc]⟩

theorem SpellsInteger.exists_digit {integer : List Char} (h : SpellsInteger integer) :
    ∃ d ds, integer = d :: ds ∧ d.isDigit = true := by
  cases h with
  | zero => exact ⟨'0', [], rfl, by decide⟩
  | digits hd hz =>
    obtain ⟨d, ds, rfl⟩ := List.exists_cons_of_ne_nil hd.1
    exact ⟨d, ds, rfl, hd.2 d List.mem_cons_self⟩

/-- A literal begins with a sign or a digit. -/
theorem SpellsLiteral.exists_cons {t : List Char} {l : Literal} (h : SpellsLiteral t l) :
    ∃ c rest, t = c :: rest ∧ (c = '-' ∨ c.isDigit = true) := by
  cases h with
  | unsigned hi hf hx =>
    obtain ⟨d, ds, rfl, hd⟩ := hi.exists_digit
    exact ⟨d, _, rfl, .inr hd⟩
  | negative hi hf hx => exact ⟨'-', _, rfl, .inl rfl⟩

theorem bare_literal_spelled {t rest : List Char} {l : Literal} (h : SpellsLiteral t l)
    (hr : Stops rest) : bare (literal (t ++ rest)) = .ok (l, rest) := by
  cases h with
  | unsigned hi hf hx =>
    rw [bare_literal_of_ne, bare_unsignedLiteral_spelled false hi hf hx hr]
    obtain ⟨d, ds, rfl, hd⟩ := hi.exists_digit
    rintro hm
    obtain rfl : d = '-' := by simpa using hm
    simp at hd
  | negative hi hf hx =>
    rw [List.cons_append, bare_literal_minus, bare_unsignedLiteral_spelled true hi hf hx hr]

/-- A spelled number in range is read, up to what cannot be part of it. -/
theorem bare_number_spelled {t rest : List Char} {l : Literal} {n : Number} (h : SpellsLiteral t l)
    (hv : l.value? = some n) (hr : Stops rest) : bare (number (t ++ rest)) = .ok (n, rest) := by
  simp only [bare_number, bare_literal_spelled h hr, andThen_ok, hv]

theorem exists_of_literal {text rest : List Char} {l : Literal}
    (h : bare (literal text) = .ok (l, rest)) : ∃ t, SpellsLiteral t l ∧ text = t ++ rest := by
  by_cases hm : text.head? = some '-'
  · obtain ⟨back, rfl⟩ := List.head?_eq_some_iff.mp hm
    rw [bare_literal_minus] at h
    obtain ⟨integer, f, fraction, x, exponent, hi, hf, hx, rfl, rfl⟩ := exists_of_unsignedLiteral h
    exact ⟨_, .negative hi hf hx, rfl⟩
  · rw [bare_literal_of_ne hm] at h
    obtain ⟨integer, f, fraction, x, exponent, hi, hf, hx, rfl, rfl⟩ := exists_of_unsignedLiteral h
    exact ⟨_, .unsigned hi hf hx, rfl⟩

/-- A number that is read is spelled. -/
theorem exists_of_number {text rest : List Char} {n : Number}
    (h : bare (number text) = .ok (n, rest)) :
    ∃ t l, SpellsLiteral t l ∧ l.value? = some n ∧ text = t ++ rest := by
  rw [bare_number] at h
  obtain ⟨l, r, hl, hnext⟩ := exists_of_andThen h
  obtain ⟨t, ht, rfl⟩ := exists_of_literal hl
  split at hnext
  · rename_i m hv
    cases hnext
    exact ⟨t, l, ht, hv, rfl⟩
  · cases hnext

end SessionInventory.Json
