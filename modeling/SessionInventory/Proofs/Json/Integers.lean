import SessionInventory.Proofs.Json.Printed

/-!
# Whole numbers, digit for digit

A literal without fraction and exponent has one spelling for each value, zero with a sign apart
(`toDigits_ofDigitChars`). So what 64 bits hold is written as it was spelled
(`SpellsWhole.writeInt_eq`), and it is taken for the number that it spells; any other such literal
can only become a float (`SpellsWhole.exists_literal`), and no float is written like a whole number
(`not_spellsWhole_float`).
-/

namespace SessionInventory.Json

/-- A literal without fraction and exponent, and its value. -/
inductive SpellsWhole : List Char → Int → Prop where
  | plain {ds} (h : SpellsInteger ds) : SpellsWhole ds (Nat.ofDigitChars 10 ds 0)
  | negative {ds} (h : SpellsInteger ds) : SpellsWhole ('-' :: ds) (-(Nat.ofDigitChars 10 ds 0 : Nat))

/-- What 64 bits hold, with or without a sign. -/
def Fits (n : Int) : Prop := -0x8000000000000000 ≤ n ∧ n < 0x10000000000000000

/-! ## Digits -/

theorem digitChar_eq_ofNat : ∀ n < 10, n.digitChar = Char.ofNat (n + '0'.toNat) := by decide

/-- A digit is that of its value. -/
theorem digitChar_sub {c : Char} (h : c.isDigit = true) :
    c.toNat - '0'.toNat < 10 ∧ (c.toNat - '0'.toNat).digitChar = c := by
  obtain ⟨hlow, hhigh⟩ := Char.isDigit_iff_toNat.mp h
  have hnine : '9'.toNat = '0'.toNat + 9 := rfl
  have hlt : c.toNat - '0'.toNat < 10 := by omega
  refine ⟨hlt, ?_⟩
  rw [digitChar_eq_ofNat _ hlt, Nat.sub_add_cancel hlow, Char.ofNat_toNat]

/-- Digits behind a number are digits of a number. -/
theorem toDigits_append {n : Nat} (hn : 0 < n) {ds : List Char} (h : ∀ c ∈ ds, c.isDigit = true) :
    Nat.toDigits 10 n ++ ds = Nat.toDigits 10 (Nat.ofDigitChars 10 ds n) := by
  induction ds generalizing n with
  | nil => rw [Nat.ofDigitChars_nil, List.append_nil]
  | cons d ds ih =>
    obtain ⟨hd, hds⟩ := List.forall_mem_cons.mp h
    obtain ⟨hlt, hchar⟩ := digitChar_sub hd
    have hdigit := Nat.toDigits_append_toDigits (by decide) hn hlt
    rw [Nat.toDigits_of_lt_base hlt, hchar] at hdigit
    rw [List.append_cons, hdigit, ih (by omega) hds, Nat.ofDigitChars_cons]

/-- The digits of a number without a zero in front are those of its value. -/
theorem toDigits_ofDigitChars {ds : List Char} (h : SpellsInteger ds) :
    Nat.toDigits 10 (Nat.ofDigitChars 10 ds 0) = ds := by
  cases h with
  | zero => rfl
  | digits h hz =>
    obtain ⟨hne, hall⟩ := h
    obtain ⟨d, rest, rfl⟩ := List.exists_cons_of_ne_nil hne
    obtain ⟨hd, hrest⟩ := List.forall_mem_cons.mp hall
    obtain ⟨hlt, hchar⟩ := digitChar_sub hd
    have hpos : 0 < d.toNat - '0'.toNat := by
      refine Nat.pos_of_ne_zero fun hzero => hz ?_
      rw [← hchar, hzero]
      rfl
    rw [Nat.ofDigitChars_cons, Nat.mul_zero, Nat.zero_add, ← toDigits_append hpos hrest,
      Nat.toDigits_of_lt_base hlt, hchar]
    rfl

/-- Digits are only counted as powers of ten if 64 bits do not hold their value. -/
theorem takeInteger_of_le {ds : List Char} {m : Nat} (hm : m < 0x10000000000000000)
    (h : 0x10000000000000000 ≤ Nat.ofDigitChars 10 ds m) :
    (Significand.takeInteger m ds).scale ≠ 0 := by
  induction ds generalizing m with
  | nil =>
    rw [Nat.ofDigitChars_nil] at h
    omega
  | cons d ds ih =>
    rw [Nat.ofDigitChars_cons] at h
    rw [Significand.takeInteger]
    split
    · rename_i hd
      exact ih hd h
    · dsimp only
      omega

/-! ## Values and texts -/

section

variable (negative : Bool) (ds : List Char)

/-- The value of digits behind a sign or none. -/
def signed (negative : Bool) (ds : List Char) : Int :=
  if negative then -(Nat.ofDigitChars 10 ds 0 : Nat) else (Nat.ofDigitChars 10 ds 0 : Nat)

variable {ds}

theorem significand_eq (h : Nat.ofDigitChars 10 ds 0 < 0x10000000000000000) :
    Literal.significand ⟨negative, ds, [], none⟩ = ⟨Nat.ofDigitChars 10 ds 0, 0⟩ := by
  rw [Literal.significand, takeInteger_eq h, Significand.takeFraction]

theorem value?_of_fits (hn : Fits (signed negative ds)) (hz : ¬(negative ∧ signed negative ds = 0)) :
    Literal.value? ⟨negative, ds, [], none⟩ = some (.whole (signed negative ds) hn) := by
  have hsize : Nat.ofDigitChars 10 ds 0 < 0x10000000000000000 := by
    obtain ⟨hlow, hhigh⟩ := hn
    cases negative with
    | false =>
      rw [signed, if_neg Bool.false_ne_true] at hhigh
      omega
    | true =>
      rw [signed, if_pos rfl] at hlow
      omega
  exact value?_eq_whole rfl rfl (significand_eq negative hsize) rfl hn hz

theorem value?_of_not_fits (hn : ¬(Fits (signed negative ds) ∧
    ¬(negative ∧ signed negative ds = 0))) :
    Literal.value? ⟨negative, ds, [], none⟩ = Literal.float? ⟨negative, ds, [], none⟩ := by
  by_cases hsize : Nat.ofDigitChars 10 ds 0 < 0x10000000000000000
  · simp only [Literal.value?, significand_eq negative hsize]
    rw [if_pos ⟨trivial, trivial, trivial⟩]
    exact dif_neg fun h => hn ⟨⟨h.1, h.2.1⟩, h.2.2⟩
  · have hs : (Literal.significand ⟨negative, ds, [], none⟩).scale ≠ 0 := by
      rw [Literal.significand, Significand.takeFraction]
      exact takeInteger_of_le (by decide) (Nat.le_of_not_lt hsize)
    exact if_neg fun h => hs h.2.2

end

namespace SpellsWhole

variable {t : List Char} {n : Int}

/-- A whole number is written as it was spelled, unless it is a zero with a sign. -/
theorem writeInt_eq (h : SpellsWhole t n) (hz : t ≠ ['-', '0']) : writeInt n = t := by
  cases h with
  | plain h => exact toDigits_ofDigitChars h
  | @negative ds h =>
    have hdigits := toDigits_ofDigitChars h
    cases hn : Nat.ofDigitChars 10 ds 0 with
    | zero =>
      rw [hn] at hdigits
      exact absurd (hdigits ▸ rfl) hz
    | succ m =>
      rw [hn] at hdigits
      exact congrArg ('-' :: ·) hdigits

/-- Zero has one spelling. -/
theorem eq_zero_iff {ds : List Char} (h : SpellsInteger ds) :
    Nat.ofDigitChars 10 ds 0 = 0 ↔ ds = ['0'] := by
  constructor
  · intro hzero
    have hdigits := toDigits_ofDigitChars h
    rw [hzero] at hdigits
    exact hdigits.symm
  · rintro rfl
    rfl

/-- A literal without fraction and exponent is a whole number if 64 bits hold it, and it is no zero
with a sign. Otherwise it is a float, if it is in range. -/
theorem exists_literal (h : SpellsWhole t n) : ∃ l, SpellsLiteral t l ∧
    (∀ hn : Fits n, t ≠ ['-', '0'] → l.value? = some (.whole n hn)) ∧
    (¬(Fits n ∧ t ≠ ['-', '0']) → l.value? = l.float?) := by
  cases h with
  | plain h =>
    have hspelled := SpellsLiteral.unsigned h .absent .absent
    rw [List.append_nil, List.append_nil] at hspelled
    have hsign : t ≠ ['-', '0'] := by
      obtain ⟨d, rest, rfl, hd⟩ := h.exists_digit
      rintro heq
      cases heq
      cases hd
    exact ⟨_, hspelled, fun hn _ => value?_of_fits false hn fun hz => Bool.false_ne_true hz.1,
      fun hn => value?_of_not_fits false fun hfits => hn ⟨hfits.1, hsign⟩⟩
  | @negative ds h =>
    have hspelled := SpellsLiteral.negative h .absent .absent
    rw [List.append_nil, List.append_nil] at hspelled
    have hzero : (-(Nat.ofDigitChars 10 ds 0 : Nat) : Int) = 0 ↔ '-' :: ds = ['-', '0'] := by
      rw [Int.neg_eq_zero, Int.natCast_eq_zero, eq_zero_iff h, List.cons.injEq]
      exact (and_iff_right rfl).symm
    exact ⟨_, hspelled,
      fun hn hz => value?_of_fits true hn fun hneg => hz (hzero.mp hneg.2),
      fun hn => value?_of_not_fits true fun hfits =>
        hn ⟨hfits.1, fun heq => hfits.2 ⟨rfl, hzero.mpr heq⟩⟩⟩

theorem forall_mem (h : SpellsWhole t n) : ∀ c ∈ t, c = '-' ∨ c.isDigit = true := by
  have hdigits {ds : List Char} (h : SpellsInteger ds) : ∀ c ∈ ds, c.isDigit = true := by
    cases h with
    | zero => exact List.forall_mem_singleton.mpr rfl
    | digits h hz => exact h.2
  cases h with
  | plain h => exact fun c hc => .inr (hdigits h c hc)
  | negative h =>
    refine List.forall_mem_cons.mpr ⟨.inl rfl, fun c hc => .inr (hdigits h c hc)⟩

end SpellsWhole

/-! ## Floats -/

/-- A decimal is laid out with a point or with a power of ten. -/
theorem exists_mark_write (layout : Decimal.Layout) (d : Decimal) :
    ∃ c ∈ layout.write d, c = '.' ∨ c = 'e' := by
  rw [Decimal.Layout.write]
  split
  · refine ⟨'.', ?_, .inl rfl⟩
    rw [Decimal.positional]
    split
    · exact List.mem_append_left _ (List.mem_cons_of_mem _ List.mem_cons_self)
    · exact List.mem_append_right _ List.mem_cons_self
  · exact ⟨'e', List.mem_append_right _ List.mem_cons_self, .inr rfl⟩

/-- No float is written like a whole number. -/
theorem not_spellsWhole_float (f : Float) (n : Int) : ¬SpellsWhole (Number.float f).write n := by
  have hmark : ∃ c ∈ (Number.float f).write, c = '.' ∨ c = 'e' ∨ c = 'n' := by
    rw [Number.write]
    split
    · have hsize : ∃ c ∈ if f == 0 then ['0', '.', '0'] else
          Decimal.Layout.document.write (Decimal.Binary.ofFloat f).shortest, c = '.' ∨ c = 'e' := by
        split
        · exact ⟨'.', by decide, .inl rfl⟩
        · exact exists_mark_write _ _
      obtain ⟨c, hc, hm⟩ := hsize
      rw [Decimal.Layout.writeFloat, String.toList_ofList]
      exact ⟨c, List.mem_append_right _ hc, hm.imp_right .inl⟩
    · exact ⟨'n', List.mem_cons_self, .inr (.inr rfl)⟩
  obtain ⟨c, hc, hm⟩ := hmark
  intro h
  have hdigit := h.forall_mem c hc
  rcases hm with rfl | rfl | rfl
  all_goals exact absurd hdigit (by decide)

end SessionInventory.Json
