import SessionInventory.Proofs.Text.Lossy

/-!
# Characters and their bytes

The encoding of a character is a first byte and, outside ASCII, one to three more that carry six bits
of its number each (`tailBytes`). The first byte leads exactly to the characters whose encodings it
begins (`encode_of_lead?`, `exists_lead?`), and every further byte cuts these down to the ones that
it goes on with (`Pending.leads_next_iff`), until the last bytes of one have been read
(`decodeFrom_tailBytes`). So characters are read from their encodings
(`decodeFrom_utf8EncodeChar`), and a text is read as it is (`decodeLossy_encode`).
-/

namespace SessionInventory.Utf8

/-- The last bytes of the encoding of a number, with six of its bits in each. -/
def tailBytes (n : Nat) : Nat → List UInt8
  | 0 => []
  | k + 1 => UInt8.ofNat (n / 64 ^ k % 64 + 0x80) :: tailBytes n k

/-! ## Characters under way -/

namespace Pending

/-- Whether a byte is still missing of a character under way, and some byte may come next but none
that begins another character. -/
structure Waits (p : Pending) : Prop where
  pos : 0 < p.missing
  lowest_le : p.lowest ≤ p.highest
  highest_le : p.highest ≤ 0xBF

theorem notAscii_tail : (0x80 : UInt8) ≤ 0x80 := UInt8.le_refl _

/-- A character under way after another byte that is not its last. -/
def next (p : Pending) (b : UInt8) : Pending :=
  ⟨p.bits * 64 + (b.toNat - 0x80), p.missing - 1, 0x80, 0xBF, notAscii_tail⟩

@[simp] theorem next_bits (p : Pending) (b : UInt8) :
    (p.next b).bits = p.bits * 64 + (b.toNat - 0x80) := rfl
@[simp] theorem next_missing (p : Pending) (b : UInt8) : (p.next b).missing = p.missing - 1 := rfl
@[simp] theorem next_lowest (p : Pending) (b : UInt8) : (p.next b).lowest = 0x80 := rfl
@[simp] theorem next_highest (p : Pending) (b : UInt8) : (p.next b).highest = 0xBF := rfl

variable {p : Pending} {b : UInt8} {n : Nat}

theorem waits_next (h : 1 < p.missing) (b : UInt8) : (p.next b).Waits := by
  refine ⟨?_, by simp, by simp⟩
  rw [next_missing]
  omega

/-- The bits in front of those that the bytes behind the next one carry. -/
theorem leads_iff : p.Leads n ↔
    p.bits * 64 + (p.lowest.toNat - 0x80) ≤ n / 64 ^ (p.missing - 1) ∧
      n / 64 ^ (p.missing - 1) ≤ p.bits * 64 + (p.highest.toNat - 0x80) := by
  have hpos : 0 < 64 ^ (p.missing - 1) := Nat.pow_pos (by decide)
  rw [Leads, Nat.le_div_iff_mul_le hpos, ← Nat.lt_succ_iff (n := p.bits * 64 + _),
    Nat.div_lt_iff_lt_mul hpos]

theorem Waits.exists_byte (hp : p.Waits) (h : p.Leads n) : ∃ b, p.lowest ≤ b ∧ b ≤ p.highest ∧
    p.bits * 64 + (b.toNat - 0x80) = n / 64 ^ (p.missing - 1) := by
  obtain ⟨hleast, hmost⟩ := leads_iff.mp h
  have hlow := UInt8.le_iff_toNat_le.mp p.notAscii
  have hrange := UInt8.le_iff_toNat_le.mp hp.lowest_le
  have hhigh := UInt8.le_iff_toNat_le.mp hp.highest_le
  simp only [UInt8.reduceToNat] at hlow hhigh
  generalize n / 64 ^ (p.missing - 1) = bits at *
  have hbyte : (UInt8.ofNat (bits - p.bits * 64 + 0x80)).toNat = bits - p.bits * 64 + 0x80 :=
    UInt8.toNat_ofNat_of_lt' (by show _ < 256; omega)
  refine ⟨UInt8.ofNat (bits - p.bits * 64 + 0x80), ?_⟩
  rw [UInt8.le_iff_toNat_le, UInt8.le_iff_toNat_le, hbyte]
  omega

/-- A byte in the range is the next one of the numbers that have its bits in the right place. -/
theorem Waits.leads_of_byte (hp : p.Waits) (hl : p.lowest ≤ b) (hh : b ≤ p.highest)
    (hn : p.bits * 64 + (b.toNat - 0x80) = n / 64 ^ (p.missing - 1)) :
    p.Leads n ∧ tailBytes n p.missing = b :: tailBytes n (p.missing - 1) := by
  have hascii := UInt8.le_iff_toNat_le.mp p.notAscii
  have hlow := UInt8.le_iff_toNat_le.mp hl
  have hhigh := UInt8.le_iff_toNat_le.mp hh
  have hmost := UInt8.le_iff_toNat_le.mp hp.highest_le
  simp only [UInt8.reduceToNat] at hascii hmost
  have hbyte : b = UInt8.ofNat ((p.bits * 64 + (b.toNat - 0x80)) % 64 + 0x80) := by
    rw [← UInt8.toNat_inj, UInt8.toNat_ofNat']
    omega
  refine ⟨leads_iff.mpr ?_, ?_⟩
  · rw [← hn]
    omega
  · obtain ⟨k, hk⟩ := Nat.exists_eq_succ_of_ne_zero (Nat.ne_of_gt hp.pos)
    rw [hk, Nat.succ_sub_one] at hn
    rw [hk, Nat.succ_sub_one, tailBytes, ← hn, ← hbyte]

/-- What a character under way may become after another byte. -/
theorem leads_next_iff (h : 1 < p.missing) :
    (p.next b).Leads n ↔ p.bits * 64 + (b.toNat - 0x80) = n / 64 ^ (p.missing - 1) := by
  obtain ⟨k, hk⟩ : ∃ k : Nat, p.missing = k + 2 := ⟨p.missing - 2, by omega⟩
  have hlater : (p.next b).missing - 1 = k := by
    rw [next_missing, hk]
    rfl
  have hpow : n / 64 ^ (p.missing - 1) = n / 64 ^ k / 64 := by
    rw [Nat.div_div_eq_div_mul, ← Nat.pow_succ, hk]
    rfl
  rw [leads_iff, hlater, hpow]
  generalize n / 64 ^ k = bits
  simp only [next_bits, next_lowest, next_highest, UInt8.reduceToNat]
  omega

end Pending

theorem step_within {p : Pending} {b : UInt8} (hl : p.lowest ≤ b) (hh : b ≤ p.highest) :
    step (some p) b = if p.missing ≤ 1 then ([Char.ofNat (p.bits * 64 + (b.toNat - 0x80))], none)
      else ([], some (p.next b)) := by
  rw [step, if_pos ⟨hl, hh⟩]
  rfl

theorem step_beyond {p : Pending} {b : UInt8} (h : ¬(p.lowest ≤ b ∧ b ≤ p.highest)) :
    step (some p) b = (replacement :: (first b).1, (first b).2) :=
  if_neg h

/-- A character under way becomes the one whose last bytes follow. -/
theorem decodeFrom_tailBytes {p : Pending} (hp : p.Waits) {n : Nat} (h : p.Leads n)
    (rest : List UInt8) :
    decodeFrom (some p) (tailBytes n p.missing ++ rest) = Char.ofNat n :: decodeFrom none rest := by
  -- The induction is on the bytes that are missing behind the next one.
  obtain ⟨k, hk⟩ := Nat.exists_eq_succ_of_ne_zero (Nat.ne_of_gt hp.pos)
  induction k generalizing p with
  | zero =>
    obtain ⟨b, hl, hh, hbits⟩ := hp.exists_byte h
    have htail := (hp.leads_of_byte hl hh hbits).2
    have hlast : p.missing - 1 = 0 := by omega
    rw [hlast, Nat.pow_zero, Nat.div_one] at hbits
    rw [htail, hlast, List.cons_append, decodeFrom_cons, step_within hl hh,
      if_pos (Nat.le_of_eq hk), hbits]
    rfl
  | succ k ih =>
    obtain ⟨b, hl, hh, hbits⟩ := hp.exists_byte h
    have htail := (hp.leads_of_byte hl hh hbits).2
    have hmore : 1 < p.missing := by omega
    have hnext : (p.next b).Leads n := (Pending.leads_next_iff hmore).mpr hbits
    rw [htail, List.cons_append, decodeFrom_cons, step_within hl hh, if_neg (by omega)]
    exact ih (Pending.waits_next hmore b) hnext (show p.missing - 1 = k + 1 by omega)

/-! ## First bytes -/

section

variable {c : Char}

theorem utf8EncodeChar_one (h : c.toNat < 0x80) :
    String.utf8EncodeChar c = [UInt8.ofNat c.toNat] :=
  String.utf8EncodeChar_eq_singleton (Char.utf8Size_eq_one_iff.mpr (Nat.le_of_lt_succ h))

theorem utf8EncodeChar_two (h : 0x80 ≤ c.toNat) (h' : c.toNat < 0x800) :
    String.utf8EncodeChar c = UInt8.ofNat (c.toNat / 0x40 + 0xC0) :: tailBytes c.toNat 1 := by
  have hbits : c.toNat / 64 % 32 = c.toNat / 0x40 := by omega
  simp only [String.utf8EncodeChar, show c.val.toNat = c.toNat from rfl, hbits]
  rw [if_neg (by omega), if_pos (by omega)]
  simp only [tailBytes, Nat.pow_zero, Nat.div_one]

theorem utf8EncodeChar_three (h : 0x800 ≤ c.toNat) (h' : c.toNat < 0x10000) :
    String.utf8EncodeChar c = UInt8.ofNat (c.toNat / 0x1000 + 0xE0) :: tailBytes c.toNat 2 := by
  have hbits : c.toNat / 4096 % 16 = c.toNat / 0x1000 := by omega
  simp only [String.utf8EncodeChar, show c.val.toNat = c.toNat from rfl, hbits]
  rw [if_neg (by omega), if_neg (by omega), if_pos (by omega)]
  simp only [tailBytes, Nat.pow_zero, Nat.pow_one, Nat.div_one]

theorem utf8EncodeChar_four (h : 0x10000 ≤ c.toNat) :
    String.utf8EncodeChar c = UInt8.ofNat (c.toNat / 0x40000 + 0xF0) :: tailBytes c.toNat 3 := by
  have hvalid : c.toNat < 0xD800 ∨ 0xDFFF < c.toNat ∧ c.toNat < 0x110000 := c.valid
  have hbits : c.toNat / 262144 % 8 = c.toNat / 0x40000 := by omega
  simp only [String.utf8EncodeChar, show c.val.toNat = c.toNat from rfl, hbits]
  rw [if_neg (by omega), if_neg (by omega), if_neg (by omega)]
  simp only [tailBytes, Nat.pow_zero, Nat.pow_one, Nat.div_one, Nat.reducePow]

end

section

variable {b : UInt8} {p : Pending}

theorem first_of_lead? (h : lead? b = some p) : first b = ([], some p) := by
  have hb : ¬b < 0x80 := fun hb => by
    have hlow : b < 0xC2 := UInt8.lt_trans hb (by decide)
    rw [lead?, if_pos hlow] at h
    exact absurd h (Option.some_ne_none p).symm
  rw [first, if_neg hb, h]

theorem waits_of_lead? (h : lead? b = some p) : p.Waits := by
  unfold lead? at h
  repeat' split at h
  all_goals first | exact absurd h (Option.some_ne_none p).symm | rw [← Option.some.inj h]
  all_goals exact ⟨by simp, by simp, by simp⟩

/-- What a first byte leads to has an encoding that begins with it. -/
theorem encode_of_lead? (h : lead? b = some p) {c : Char} (hc : p.Leads c.toNat) :
    String.utf8EncodeChar c = b :: tailBytes c.toNat p.missing := by
  have hbyte : b.toNat < 256 := b.toNat_lt
  simp only [lead?, UInt8.lt_iff_toNat_lt, ← UInt8.toNat_inj, UInt8.reduceToNat] at h
  repeat' split at h
  all_goals first | exact absurd h (Option.some_ne_none p).symm | obtain rfl := Option.some.inj h
  all_goals
    simp only [Pending.Leads, UInt8.reduceToNat, Nat.reduceSub, Nat.reducePow] at hc
    first
    | rw [utf8EncodeChar_two (by omega) (by omega)]
    | rw [utf8EncodeChar_three (by omega) (by omega)]
    | rw [utf8EncodeChar_four (by omega)]
    congr 1
    rw [← UInt8.toNat_inj, UInt8.toNat_ofNat']
    omega

/-- Every character outside ASCII is what its first byte leads to. -/
theorem exists_lead? {c : Char} (h : 0x80 ≤ c.toNat) :
    ∃ b p, lead? b = some p ∧ p.Leads c.toNat := by
  have hvalid : c.toNat < 0xD800 ∨ 0xDFFF < c.toNat ∧ c.toNat < 0x110000 := c.valid
  obtain ⟨m, hm, hbyte⟩ : ∃ m, (c.toNat < 0x800 ∧ m = c.toNat / 0x40 + 0xC0 ∨
      0x800 ≤ c.toNat ∧ c.toNat < 0x10000 ∧ m = c.toNat / 0x1000 + 0xE0 ∨
      0x10000 ≤ c.toNat ∧ m = c.toNat / 0x40000 + 0xF0) ∧ m < 256 := by
    by_cases htwo : c.toNat < 0x800
    · exact ⟨c.toNat / 0x40 + 0xC0, by omega⟩
    · by_cases hthree : c.toNat < 0x10000
      · exact ⟨c.toNat / 0x1000 + 0xE0, by omega⟩
      · exact ⟨c.toNat / 0x40000 + 0xF0, by omega⟩
  obtain ⟨b, rfl⟩ : ∃ b : UInt8, b.toNat = m := ⟨UInt8.ofNat m, UInt8.toNat_ofNat_of_lt' hbyte⟩
  refine ⟨b, ?_⟩
  simp only [lead?, UInt8.lt_iff_toNat_lt, ← UInt8.toNat_inj, UInt8.reduceToNat]
  repeat' split
  all_goals first | omega | refine ⟨_, rfl, ?_⟩
  all_goals
    simp only [Pending.Leads, UInt8.reduceToNat, Nat.reduceSub, Nat.reducePow]
    omega

end

/-! ## Texts -/

/-- The encoding of a character is read as the character, whatever follows. -/
theorem decodeFrom_utf8EncodeChar (c : Char) (rest : List UInt8) :
    decodeFrom none (String.utf8EncodeChar c ++ rest) = c :: decodeFrom none rest := by
  by_cases h : c.toNat < 0x80
  · have hbyte : (UInt8.ofNat c.toNat).toNat = c.toNat :=
      UInt8.toNat_ofNat_of_lt' (Nat.lt_trans h (by decide))
    have hascii : UInt8.ofNat c.toNat < 0x80 := by
      rw [UInt8.lt_iff_toNat_lt, hbyte]
      exact h
    rw [utf8EncodeChar_one h, List.singleton_append, decodeFrom_ascii none hascii, hbyte,
      Char.ofNat_toNat]
    rfl
  · obtain ⟨b, p, hlead, hc⟩ := exists_lead? (Nat.not_lt.mp h)
    rw [encode_of_lead? hlead hc, List.cons_append, decodeFrom_cons, step, first_of_lead? hlead,
      List.nil_append, decodeFrom_tailBytes (waits_of_lead? hlead) hc, Char.ofNat_toNat]

/-- The bytes of a text are those of its characters. -/
theorem encode_eq_flatMap (text : String) :
    encode text = text.toList.flatMap String.utf8EncodeChar := by
  rw [encode, ← String.utf8Encode_toList, List.utf8Encode, List.data_toByteArray]

/-- A text is read as it is. -/
theorem decodeLossy_encode (text : String) : decodeLossy (encode text) = text := by
  have hchars (chars : List Char) :
      decodeFrom none (chars.flatMap String.utf8EncodeChar) = chars := by
    induction chars with
    | nil => rfl
    | cons c rest ih => rw [List.flatMap_cons, decodeFrom_utf8EncodeChar, ih]
  rw [decodeLossy, encode_eq_flatMap, hchars, String.ofList_toList]

end SessionInventory.Utf8
