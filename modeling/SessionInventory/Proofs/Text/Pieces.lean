import Mathlib.Data.List.Induction
import SessionInventory.Proofs.Text.Characters

/-!
# Pieces that are not text

Bytes that are not text are read piece by piece (`ReadsAs`): where the encoding of a character
stands, as the character, and elsewhere the longest piece that begins an encoding as one U+FFFD. This
says nothing of first bytes and ranges. Whatever has been read of a character under way begins its
encoding (`Begun.begins`), what begins an encoding and is not all of it leaves it under way
(`exists_begun_of_prefix`), and a byte goes on with a character under way exactly if it is in the
range (`Begun.begins_concat`). So a longest piece is followed by a byte out of the range, and makes
one U+FFFD (`decodeFrom_damage`); as bytes always fall into pieces (`exists_readsAs`), the two ways
of reading are the same (`readsAs_iff`).
-/

namespace SessionInventory.Utf8

/-- Whether bytes begin the encoding of a character: they are a front of it, or all. -/
def Begins (piece : List UInt8) : Prop := ∃ c, piece <+: String.utf8EncodeChar c

/-- What bytes are read as. Where the encoding of a character stands, it is read as the character.
Elsewhere the longest piece that begins an encoding, but at least one byte, is read as U+FFFD. -/
inductive ReadsAs : List UInt8 → List Char → Prop where
  | nil : ReadsAs [] []
  | char (c : Char) {rest : List UInt8} {text : List Char} (h : ReadsAs rest text) :
    ReadsAs (String.utf8EncodeChar c ++ rest) (c :: text)
  | damage {piece rest : List UInt8} {text : List Char} (hne : piece ≠ [])
    (hno : ∀ c, ¬String.utf8EncodeChar c <+: piece ++ rest)
    (hbegins : piece.length = 1 ∨ Begins piece)
    (hlongest : ∀ b ∈ rest.head?, ¬Begins (piece ++ [b])) (h : ReadsAs rest text) :
    ReadsAs (piece ++ rest) (replacement :: text)

/-! ## What has been read of a character -/

/-- The bytes that have been read of a character under way. -/
inductive Begun : List UInt8 → Pending → Prop where
  | lead {b : UInt8} {p : Pending} (h : lead? b = some p) : Begun [b] p
  | next {piece : List UInt8} {p : Pending} {b : UInt8} (h : Begun piece p) (hm : 1 < p.missing)
    (hl : p.lowest ≤ b) (hh : b ≤ p.highest) : Begun (piece ++ [b]) (p.next b)

namespace Begun

variable {piece : List UInt8} {p : Pending}

theorem waits (h : Begun piece p) : p.Waits := by
  cases h with
  | lead h => exact waits_of_lead? h
  | next _ hm _ _ => exact Pending.waits_next hm _

theorem sound (h : Begun piece p) : p.Sound := by
  induction h with
  | lead h => exact sound_of_lead? h
  | next _ hm hl hh ih => exact (ih.step hl hh).2 (Nat.not_le.mpr hm)

theorem decodeFrom_append (h : Begun piece p) (rest : List UInt8) :
    decodeFrom none (piece ++ rest) = decodeFrom (some p) rest := by
  induction h generalizing rest with
  | lead h =>
    rw [List.singleton_append, decodeFrom_cons, step, first_of_lead? h]
    rfl
  | next _ hm hl hh ih =>
    rw [List.append_assoc, ih, List.singleton_append, decodeFrom_cons, step_within hl hh,
      if_neg (Nat.not_le.mpr hm)]
    rfl

/-- What a character under way may become is what has been read with the missing bytes behind it. -/
theorem encode (h : Begun piece p) {c : Char} (hc : p.Leads c.toNat) :
    String.utf8EncodeChar c = piece ++ tailBytes c.toNat p.missing := by
  induction h with
  | lead h => exact encode_of_lead? h hc
  | next hb hm hl hh ih =>
    obtain ⟨hleads, htail⟩ := hb.waits.leads_of_byte hl hh ((Pending.leads_next_iff hm).mp hc)
    rw [ih hleads, htail, List.append_assoc]
    rfl

/-- A byte in the range goes on with a character. -/
theorem begins_concat (h : Begun piece p) {b : UInt8} (hl : p.lowest ≤ b) (hh : b ≤ p.highest) :
    Begins (piece ++ [b]) := by
  have hpos : 0 < 64 ^ (p.missing - 1) := Nat.pow_pos (by decide)
  -- The bits that have been read, with zeros for all that are missing, are a number to end with.
  obtain ⟨hleads, htail⟩ := h.waits.leads_of_byte hl hh (Nat.mul_div_cancel _ hpos).symm
  obtain ⟨c, hc⟩ : ∃ c : Char, c.toNat = _ := ⟨_, toNat_ofNat (h.sound _ hleads).2⟩
  rw [← hc] at hleads htail
  have hencode : String.utf8EncodeChar c = piece ++ [b] ++ tailBytes c.toNat (p.missing - 1) := by
    rw [h.encode hleads, htail, List.append_assoc]
    rfl
  exact ⟨c, _, hencode.symm⟩

theorem begins (h : Begun piece p) : Begins piece := by
  obtain ⟨c, hc⟩ := h.begins_concat (UInt8.le_refl _) h.waits.lowest_le
  exact ⟨c, (List.prefix_append piece _).trans hc⟩

end Begun

/-- What begins the encoding of a character, and is not all of it, leaves the character under way. -/
theorem exists_begun_of_prefix {piece : List UInt8} {c : Char} (hne : piece ≠ [])
    (h : piece <+: String.utf8EncodeChar c) (hpart : piece ≠ String.utf8EncodeChar c) :
    ∃ p, Begun piece p ∧ p.Leads c.toNat := by
  induction piece using List.reverseRecOn with
  | nil => exact absurd rfl hne
  | append_singleton front b ih =>
    obtain ⟨back, hback⟩ := h
    have hmore : back ≠ [] := by
      rintro rfl
      exact hpart (by rw [← hback, List.append_nil])
    by_cases hfront : front = []
    · subst hfront
      rw [List.nil_append, List.singleton_append] at hback
      by_cases hc : c.toNat < 0x80
      · rw [utf8EncodeChar_one hc] at hback
        exact absurd (List.cons.inj hback).2 hmore
      · obtain ⟨b', p, hlead, hleads⟩ := exists_lead? (Nat.not_lt.mp hc)
        rw [encode_of_lead? hlead hleads] at hback
        obtain rfl : b = b' := (List.cons.inj hback).1
        exact ⟨p, .lead hlead, hleads⟩
    · rw [List.append_assoc, List.singleton_append] at hback
      have hshort : front ≠ String.utf8EncodeChar c := by
        rintro rfl
        exact absurd (List.append_right_eq_self.mp hback) (List.cons_ne_nil b back)
      obtain ⟨p, hbegun, hleads⟩ := ih hfront ⟨b :: back, hback⟩ hshort
      obtain ⟨b', hl, hh, hbits⟩ := hbegun.waits.exists_byte hleads
      have htail := (hbegun.waits.leads_of_byte hl hh hbits).2
      rw [hbegun.encode hleads, htail] at hback
      obtain ⟨rfl, hrest⟩ := List.cons.inj (List.append_cancel_left hback)
      have hm : 1 < p.missing := Nat.lt_of_not_le fun hm => by
        rw [Nat.sub_eq_zero_of_le hm] at hrest
        exact hmore hrest
      exact ⟨_, .next hbegun hm hl hh, (Pending.leads_next_iff hm).mpr hbits⟩

/-! ## Longest pieces -/

/-- A byte that begins no encoding is read as U+FFFD. -/
theorem first_of_not_begins {b : UInt8} (h : ¬Begins [b]) : first b = ([replacement], none) := by
  have hascii : ¬b < 0x80 := fun hb => by
    have hlt : b.toNat < 0x80 := UInt8.lt_iff_toNat_lt.mp hb
    have hnat : (Char.ofNat b.toNat).toNat = b.toNat :=
      toNat_ofNat (.inl (Nat.lt_trans hlt (by decide)))
    have hone : String.utf8EncodeChar (Char.ofNat b.toNat) = [b] := by
      rw [utf8EncodeChar_one (hnat.symm ▸ hlt), hnat, UInt8.ofNat_toNat]
    exact h ⟨Char.ofNat b.toNat, hone ▸ List.prefix_rfl⟩
  have hlead : lead? b = none := by
    cases hl : lead? b with
    | none => rfl
    | some p => exact absurd (Begun.lead hl).begins h
  rw [first, if_neg hascii, hlead]

/-- A longest piece that is not the encoding of a character is read as one U+FFFD. -/
theorem decodeFrom_damage {piece rest : List UInt8} (hne : piece ≠ [])
    (hno : ∀ c, ¬String.utf8EncodeChar c <+: piece ++ rest)
    (hbegins : piece.length = 1 ∨ Begins piece)
    (hlongest : ∀ b ∈ rest.head?, ¬Begins (piece ++ [b])) :
    decodeFrom none (piece ++ rest) = replacement :: decodeFrom none rest := by
  by_cases hb : Begins piece
  · obtain ⟨c, hc⟩ := hb
    have hpart : piece ≠ String.utf8EncodeChar c := by
      rintro rfl
      exact hno c (List.prefix_append _ rest)
    obtain ⟨p, hbegun, -⟩ := exists_begun_of_prefix hne hc hpart
    rw [hbegun.decodeFrom_append]
    cases rest with
    | nil => rfl
    | cons b rest =>
      have hrange : ¬(p.lowest ≤ b ∧ b ≤ p.highest) := fun hr =>
        hlongest b rfl (hbegun.begins_concat hr.1 hr.2)
      rw [decodeFrom_cons, decodeFrom_cons none, step_beyond hrange]
      rfl
  · obtain ⟨b, rfl⟩ := List.length_eq_one_iff.mp (hbegins.resolve_right hb)
    rw [List.singleton_append, decodeFrom_cons, step, first_of_not_begins hb]
    rfl

/-- Every piece can be made a longest one. -/
theorem exists_longest {piece : List UInt8} (rest : List UInt8)
    (h : piece.length = 1 ∨ Begins piece) : ∃ more back, rest = more ++ back ∧
      ((piece ++ more).length = 1 ∨ Begins (piece ++ more)) ∧
      ∀ b ∈ back.head?, ¬Begins (piece ++ more ++ [b]) := by
  induction rest generalizing piece with
  | nil => exact ⟨[], [], rfl, by rwa [List.append_nil], fun b hb => absurd hb (Option.not_mem_none b)⟩
  | cons b rest ih =>
    by_cases hb : Begins (piece ++ [b])
    · obtain ⟨more, back, rfl, hmore, hback⟩ := ih (.inr hb)
      rw [List.append_assoc] at hmore hback
      exact ⟨b :: more, back, rfl, hmore, hback⟩
    · refine ⟨[], b :: rest, rfl, by rwa [List.append_nil], fun b' hb' => ?_⟩
      obtain rfl : b = b' := Option.some.inj hb'
      rwa [List.append_nil]

/-! ## All bytes -/

theorem ReadsAs.decodeFrom_eq {bytes : List UInt8} {text : List Char} (h : ReadsAs bytes text) :
    decodeFrom none bytes = text := by
  induction h with
  | nil => rfl
  | char c _ ih => rw [decodeFrom_utf8EncodeChar, ih]
  | damage hne hno hbegins hlongest _ ih => rw [decodeFrom_damage hne hno hbegins hlongest, ih]

/-- All bytes can be read as something. -/
theorem exists_readsAs (bytes : List UInt8) : ∃ text, ReadsAs bytes text := by
  induction hn : bytes.length using Nat.strongRecOn generalizing bytes with
  | ind n ih =>
    by_cases hchar : ∃ c, String.utf8EncodeChar c <+: bytes
    · obtain ⟨c, rest, rfl⟩ := hchar
      have hpos := List.length_pos_iff.mpr (String.utf8EncodeChar_ne_nil (c := c))
      have hshort : rest.length < n := by
        rw [← hn, List.length_append]
        omega
      obtain ⟨text, htext⟩ := ih _ hshort rest rfl
      exact ⟨c :: text, .char c htext⟩
    · cases bytes with
      | nil => exact ⟨[], .nil⟩
      | cons b rest =>
        have hfirst : [b].length = 1 ∨ Begins [b] := .inl rfl
        obtain ⟨more, back, rfl, hbegins, hlongest⟩ := exists_longest rest hfirst
        have hshort : back.length < n := by
          rw [← hn, List.length_cons, List.length_append]
          omega
        obtain ⟨text, htext⟩ := ih _ hshort back rfl
        have hno : ∀ c, ¬String.utf8EncodeChar c <+: b :: more ++ back := fun c hc => hchar ⟨c, hc⟩
        exact ⟨replacement :: text,
          .damage (List.cons_ne_nil b more) hno hbegins hlongest htext⟩

/-- There is one way to read bytes. -/
theorem readsAs_iff {bytes : List UInt8} {text : List Char} :
    ReadsAs bytes text ↔ decodeFrom none bytes = text := by
  refine ⟨ReadsAs.decodeFrom_eq, ?_⟩
  rintro rfl
  obtain ⟨text, h⟩ := exists_readsAs bytes
  rwa [h.decodeFrom_eq]

/-- The first two bytes begin no encoding, and the last two begin one together. -/
example : ReadsAs [0xC0, 0xAF, 0xE2, 0x82] [replacement, replacement, replacement] :=
  readsAs_iff.mpr (by decide)

end SessionInventory.Utf8
