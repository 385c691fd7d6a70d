import Mathlib.Algebra.Group.Nat.Defs
import SessionInventory.Text.Utf8

/-!
# Where damage ends

A byte below `0x80` always stands for itself, so bytes are read apart at it
(`decodeFrom_append_ascii`). The bytes from `0x80` up never come to a character below it, whether
they are text or not: what begins or goes on like a character can only become one whose number takes
more than one byte (`Pending.Sound`), and anything else becomes U+FFFD. So damage that leaves the
ASCII characters of a text alone neither removes nor adds any (`beyond_decodeFrom`), and each of them
stands where its byte does (`exists_of_decodeFrom`).
-/

namespace SessionInventory.Utf8

theorem decodeFrom_cons (state : Option Pending) (b : UInt8) (bytes : List UInt8) :
    decodeFrom state (b :: bytes) = (step state b).1 ++ decodeFrom (step state b).2 bytes := by
  cases state <;> rfl

/-- Bytes are read apart at a byte below `0x80`. -/
theorem decodeFrom_append_ascii (state : Option Pending) (front : List UInt8) {b : UInt8}
    (h : b < 0x80) (back : List UInt8) : decodeFrom state (front ++ b :: back) =
      decodeFrom state front ++ Char.ofNat b.toNat :: decodeFrom none back := by
  induction front generalizing state with
  | nil => exact decodeFrom_ascii state h back
  | cons c rest ih =>
    rw [List.cons_append, decodeFrom_cons, decodeFrom_cons state c rest, ih, List.append_assoc]

/-! ## Characters under way -/

/-- Whether a character under way may become the one with a number. -/
def Pending.Leads (p : Pending) (n : Nat) : Prop :=
  (p.bits * 64 + (p.lowest.toNat - 0x80)) * 64 ^ (p.missing - 1) ≤ n ∧
    n < (p.bits * 64 + (p.highest.toNat - 0x80) + 1) * 64 ^ (p.missing - 1)

/-- Whether a number is that of a character outside ASCII. -/
def NotAscii (n : Nat) : Prop := 0x80 ≤ n ∧ n.isValidChar

/-- Whether all that a character under way may become are characters outside ASCII. -/
def Pending.Sound (p : Pending) : Prop := ∀ n, p.Leads n → NotAscii n

/-- The range of the numbers that a character under way may have lies outside ASCII if its ends do,
with no surrogates between them. -/
theorem Pending.sound_of_range {p : Pending}
    (hlow : 0x80 ≤ (p.bits * 64 + (p.lowest.toNat - 0x80)) * 64 ^ (p.missing - 1))
    (hhigh : (p.bits * 64 + (p.highest.toNat - 0x80) + 1) * 64 ^ (p.missing - 1) ≤ 0xD800 ∨
      0xE000 ≤ (p.bits * 64 + (p.lowest.toNat - 0x80)) * 64 ^ (p.missing - 1) ∧
      (p.bits * 64 + (p.highest.toNat - 0x80) + 1) * 64 ^ (p.missing - 1) ≤ 0x110000) :
    p.Sound := by
  refine fun n ⟨hleast, hmost⟩ => ⟨Nat.le_trans hlow hleast, ?_⟩
  rcases hhigh with hhigh | ⟨hfirst, hhigh⟩
  · exact .inl (Nat.lt_of_lt_of_le hmost hhigh)
  · exact .inr ⟨Nat.lt_of_lt_of_le (Nat.lt_of_succ_le hfirst) hleast, Nat.lt_of_lt_of_le hmost hhigh⟩

/-- The second byte keeps what begins like a character away from ASCII, from surrogates and from
numbers that are too large. -/
theorem sound_of_lead? {b : UInt8} {p : Pending} (h : lead? b = some p) : p.Sound := by
  have hbyte : b.toNat < 256 := b.toNat_lt
  simp only [lead?, UInt8.lt_iff_toNat_lt, ← UInt8.toNat_inj, UInt8.reduceToNat] at h
  repeat' split at h
  all_goals first | exact absurd h (Option.some_ne_none p).symm | rw [← Option.some.inj h]
  all_goals
    refine Pending.sound_of_range ?_ ?_
    all_goals
      simp only [UInt8.reduceToNat, Nat.reduceSub, Nat.reducePow]
      omega

/-- What another byte makes of a character under way. -/
theorem Pending.Sound.step {p : Pending} (h : p.Sound) {b : UInt8} (hl : p.lowest ≤ b)
    (hh : b ≤ p.highest) :
    (p.missing ≤ 1 → NotAscii (p.bits * 64 + (b.toNat - 0x80))) ∧
    (¬p.missing ≤ 1 →
      Sound ⟨p.bits * 64 + (b.toNat - 0x80), p.missing - 1, 0x80, 0xBF, by decide⟩) := by
  have hlow : p.bits * 64 + (p.lowest.toNat - 0x80) ≤ p.bits * 64 + (b.toNat - 0x80) :=
    Nat.add_le_add_left (Nat.sub_le_sub_right (UInt8.le_iff_toNat_le.mp hl) _) _
  have hhigh : p.bits * 64 + (b.toNat - 0x80) ≤ p.bits * 64 + (p.highest.toNat - 0x80) :=
    Nat.add_le_add_left (Nat.sub_le_sub_right (UInt8.le_iff_toNat_le.mp hh) _) _
  refine ⟨fun hm => h _ ?_, fun hm n hn => h n ?_⟩
  · have hone : 64 ^ (p.missing - 1) = 1 := by rw [Nat.sub_eq_zero_of_le hm, Nat.pow_zero]
    rw [Leads, hone, Nat.mul_one, Nat.mul_one]
    exact ⟨hlow, Nat.lt_succ_of_le hhigh⟩
  · have hpow : 64 * 64 ^ (p.missing - 1 - 1) = 64 ^ (p.missing - 1) := by
      rw [← Nat.pow_succ', Nat.succ_eq_add_one, Nat.sub_add_cancel (by omega)]
    simp only [Leads, UInt8.reduceToNat, Nat.reduceSub, Nat.add_assoc, Nat.reduceAdd,
      Nat.add_zero, ← Nat.succ_mul, Nat.mul_assoc, hpow] at hn
    obtain ⟨hleast, hmost⟩ := hn
    exact ⟨Nat.le_trans (Nat.mul_le_mul_right _ hlow) hleast,
      Nat.lt_of_lt_of_le hmost (Nat.mul_le_mul_right _ (Nat.succ_le_succ hhigh))⟩

theorem sound_of_mem_none : ∀ p ∈ (none : Option Pending), p.Sound :=
  fun p h => absurd h (Option.not_mem_none p)

/-! ## Bytes outside ASCII -/

/-- Whether all characters of a text are outside ASCII. -/
def Beyond (text : List Char) : Prop := ∀ c ∈ text, 0x80 ≤ c.toNat

theorem beyond_nil : Beyond [] := List.forall_mem_nil _

theorem beyond_replacement : Beyond [replacement] := by
  intro c hc
  obtain rfl := List.mem_singleton.mp hc
  decide

theorem beyond_first {b : UInt8} (hb : ¬b < 0x80) :
    Beyond (first b).1 ∧ ∀ p ∈ (first b).2, p.Sound := by
  rw [first, if_neg hb]
  split
  · rename_i p hp
    refine ⟨beyond_nil, fun q hq => ?_⟩
    obtain rfl : p = q := Option.some.inj hq
    exact sound_of_lead? hp
  · exact ⟨beyond_replacement, sound_of_mem_none⟩

/-- A byte outside ASCII brings no character of ASCII, and leaves none to come. -/
theorem beyond_step {state : Option Pending} (hs : ∀ p ∈ state, p.Sound) {b : UInt8}
    (hb : ¬b < 0x80) : Beyond (step state b).1 ∧ ∀ p ∈ (step state b).2, p.Sound := by
  cases state with
  | none => exact beyond_first hb
  | some p =>
    rw [step]
    split
    · rename_i hrange
      obtain ⟨hlast, hmore⟩ := (hs p rfl).step hrange.1 hrange.2
      dsimp only
      split
      · rename_i hm
        refine ⟨fun c hc => ?_, sound_of_mem_none⟩
        rw [List.mem_singleton.mp hc]
        exact (toNat_ofNat (hlast hm).2).symm ▸ (hlast hm).1
      · rename_i hm
        refine ⟨beyond_nil, fun q hq => ?_⟩
        obtain rfl := Option.some.inj hq
        exact hmore hm
    · obtain ⟨hfirst, hnext⟩ := beyond_first hb
      exact ⟨List.forall_mem_cons.mpr ⟨beyond_replacement _ (List.mem_singleton_self _), hfirst⟩,
        hnext⟩

theorem beyond_decodeFrom_nil (state : Option Pending) : Beyond (decodeFrom state []) := by
  cases state with
  | none => exact beyond_nil
  | some p => exact beyond_replacement

/-- Bytes outside ASCII come to no character of ASCII. -/
theorem beyond_decodeFrom {state : Option Pending} (hs : ∀ p ∈ state, p.Sound) {bytes : List UInt8}
    (hb : ∀ b ∈ bytes, ¬b < 0x80) : Beyond (decodeFrom state bytes) := by
  induction bytes generalizing state with
  | nil => exact beyond_decodeFrom_nil state
  | cons b rest ih =>
    obtain ⟨hbyte, hrest⟩ := List.forall_mem_cons.mp hb
    obtain ⟨hchars, hnext⟩ := beyond_step hs hbyte
    rw [decodeFrom]
    intro c hc
    rcases List.mem_append.mp hc with hc | hc
    · exact hchars c hc
    · exact ih hnext hrest c hc

/-! ## ASCII among other bytes -/

/-- What a front does not have lies behind it. -/
theorem exists_of_append_eq_append_cons {before after front back : List Char} {c : Char}
    (hc : c ∉ before) (h : before ++ after = front ++ c :: back) :
    ∃ between, front = before ++ between ∧ after = between ++ c :: back := by
  rcases List.append_eq_append_iff.mp h with ⟨between, hfront, hafter⟩ | ⟨between, hbefore, hback⟩
  · exact ⟨between, hfront, hafter⟩
  · cases between with
    | nil => exact ⟨[], by rw [hbefore, List.append_nil, List.append_nil], hback.symm⟩
    | cons d rest =>
      obtain rfl : c = d := (List.cons.inj hback).1
      exact absurd (hbefore ▸ List.mem_append_right front List.mem_cons_self) hc

/-- A character of ASCII has come of its byte, and what stands around it of the other bytes. -/
theorem exists_of_decodeFrom {state : Option Pending} (hs : ∀ p ∈ state, p.Sound)
    {bytes : List UInt8} {front back : List Char} {c : Char} (hc : c.toNat < 0x80)
    (h : decodeFrom state bytes = front ++ c :: back) :
    ∃ f k, bytes = f ++ UInt8.ofNat c.toNat :: k ∧ decodeFrom state f = front ∧
      decodeFrom none k = back := by
  have hnot {text : List Char} (hb : Beyond text) : c ∉ text := fun hm =>
    absurd (hb c hm) (Nat.not_le.mpr hc)
  induction bytes generalizing state front with
  | nil =>
    have hm : c ∈ decodeFrom state [] := h ▸ List.mem_append_right front List.mem_cons_self
    exact absurd hm (hnot (beyond_decodeFrom_nil state))
  | cons b rest ih =>
    by_cases hb : b < 0x80
    · rw [decodeFrom_ascii state hb] at h
      obtain ⟨between, rfl, hbetween⟩ :=
        exists_of_append_eq_append_cons (hnot (beyond_decodeFrom_nil state)) h
      rcases List.cons_eq_append_iff.mp hbetween with ⟨rfl, heq⟩ | ⟨more, rfl, hmore⟩
      · obtain ⟨hbyte, rfl⟩ := List.cons.inj heq
        have hb' : b.toNat < 0x80 := UInt8.lt_iff_toNat_lt.mp hb
        have hnat : c.toNat = b.toNat := by rw [hbyte, toNat_ofNat (.inl (by omega))]
        exact ⟨[], rest, by rw [hnat, UInt8.ofNat_toNat, List.nil_append], by rw [List.append_nil],
          rfl⟩
      · obtain ⟨f, k, rfl, hf, hk⟩ := ih sound_of_mem_none hmore
        exact ⟨b :: f, k, rfl, by rw [decodeFrom_ascii state hb, hf], hk⟩
    · obtain ⟨hchars, hnext⟩ := beyond_step hs hb
      rw [decodeFrom] at h
      obtain ⟨between, rfl, hbetween⟩ := exists_of_append_eq_append_cons (hnot hchars) h
      obtain ⟨f, k, rfl, hf, hk⟩ := ih hnext hbetween
      exact ⟨b :: f, k, rfl, by rw [decodeFrom, hf], hk⟩

end SessionInventory.Utf8
