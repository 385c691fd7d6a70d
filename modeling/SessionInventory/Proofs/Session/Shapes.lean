import Mathlib.Data.List.Basic
import SessionInventory.Session.Decode

/-!
# Which values describe a session

An object describes a session if its members `ssh_host` and `ssh_port` are of the right kind or
missing. So does an array, but only one of nine elements (`IsSessionArray`), the first two of which
are a host and a port; no other value does (`exists_ofValue_iff_of_not_object`).
-/

namespace SessionInventory

open Json (Value Mismatch)

/-- Whether a value is an object. -/
def Json.Value.isObject : Value → Bool
  | .object _ => true
  | _ => false

/-- A value that a host may be given as: a text, or `null` for none. -/
def IsHost (v : Value) : Prop := v = .null ∨ ∃ host, v = .string host

/-- A value that a port may be given as: a whole number of sixteen bits, or `null` for none. -/
def IsPort (v : Value) : Prop := v = .null ∨ ∃ n h, v = .number (.whole n h) ∧ 0 ≤ n ∧ n ≤ 65535

/-- An array of nine elements, the first two of which may be a host and a port. -/
def IsSessionArray (v : Value) : Prop :=
  ∃ host port labels, v = .array (host :: port :: labels) ∧ labels.length = 7 ∧
    IsHost host ∧ IsPort port

theorem exists_decodeHost_iff {v : Value} : (∃ host, decodeHost (some v) = .ok host) ↔ IsHost v := by
  cases v with
  | null | string | bool | number | array | object => simp [decodeHost, IsHost]

theorem decodePort_whole (n : Int) (h) : decodePort (some (.number (.whole n h))) =
    if 0 ≤ n ∧ n < 0x10000 then .ok (some n.toNat.toUInt16) else .error (.range n .port) :=
  rfl

theorem exists_decodePort_iff {v : Value} : (∃ port, decodePort (some v) = .ok port) ↔ IsPort v := by
  cases v with
  | null | bool | string | array | object => simp [decodePort, IsPort]
  | number n =>
    cases n with
    | float f => simp [decodePort, IsPort]
    | whole n h =>
      have hrange : IsPort (.number (.whole n h)) ↔ 0 ≤ n ∧ n < 0x10000 := by
        simp only [IsPort, reduceCtorEq, false_or]
        constructor
        · rintro ⟨m, hm, heq, hlow, hhigh⟩
          cases heq
          omega
        · exact fun hn => ⟨n, h, rfl, hn.1, by omega⟩
      rw [decodePort_whole, hrange]
      split
      · exact iff_of_true ⟨_, rfl⟩ ‹_›
      · exact iff_of_false nofun ‹_›

/-- An array describes a session exactly if it has nine elements and begins with a host and a
port. -/
theorem Session.exists_ofParts_iff {parts : List Value} :
    (∃ s, ofParts parts = .ok s) ↔ IsSessionArray (.array parts) := by
  constructor
  · rintro ⟨s, h⟩
    rw [ofParts] at h
    split at h
    · cases h
    · rename_i hhost
      split at h
      · cases h
      · rename_i hport
        split at h
        · exact ⟨_, _, _, rfl, rfl, exists_decodeHost_iff.mp ⟨_, hhost⟩,
            exists_decodePort_iff.mp ⟨_, hport⟩⟩
        · cases h
  · rintro ⟨host, port, labels, heq, hlength, hh, hp⟩
    cases heq
    obtain ⟨h, hh⟩ := exists_decodeHost_iff.mpr hh
    obtain ⟨p, hp⟩ := exists_decodePort_iff.mpr hp
    match labels, hlength with
    | [_, _, _, _, _, _, _], _ =>
      exact ⟨_, by simp only [ofParts, List.getElem?_cons_zero, List.getElem?_cons_succ, hh, hp]; rfl⟩

/-- A value that is no object describes a session exactly if it is an array of nine elements that
begins with a host and a port. -/
theorem Session.exists_ofValue_iff_of_not_object {v : Value} (h : v.isObject = false) :
    (∃ s, ofValue v = .ok s) ↔ IsSessionArray v := by
  cases v with
  | object members => cases h
  | array parts => exact exists_ofParts_iff
  | null | bool | number | string => simp [ofValue, IsSessionArray]

end SessionInventory
