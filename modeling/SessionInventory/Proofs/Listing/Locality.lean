import SessionInventory.Proofs.Listing.Entries

/-!
# Every entry by itself

What becomes of an entry depends on the entry and on its place, and on nothing around it. The entries
of two lists one after the other are decoded like those of each list, with the places in the second
counted on from the first (`decodeEntries_append`), and another entry in the place of one changes
what becomes of that one only (`decodeEntries_split`). `decodeEntries_each` says so of all entries,
and what becomes of each.
-/

namespace SessionInventory

open Json (Value Mismatch)

/-- An event about an entry, with the place of the entry that many places later; other events are
about no place. -/
def Event.movedBy (n : Nat) : Event → Event
  | .entrySkipped index m => .entrySkipped (index + n) m
  | event => event

/-! ## Sessions -/

/-- The sessions of entries are what those that can be decoded are decoded as. -/
theorem map_ok_sessionsOf (entries : List Value) :
    (sessionsOf entries).map .ok = (entries.map Session.ofValue).filter Except.isOk := by
  induction entries with
  | nil => rfl
  | cons entry rest ih =>
    rw [List.map_cons]
    cases h : Session.ofValue entry with
    | ok s => rw [sessionsOf_cons_ok rest h, List.map_cons, ih, List.filter_cons_of_pos rfl]
    | error m => rw [sessionsOf_cons_error rest h, ih, List.filter_cons_of_neg Bool.false_ne_true]

/-! ## Places -/

/-- Counted from a later place, the same entries are skipped, each at a place as much later. -/
theorem skippedFrom_add (index n : Nat) (entries : List Value) :
    skippedFrom (index + n) entries =
      (skippedFrom index entries).map fun skip => (skip.1 + n, skip.2) := by
  induction entries generalizing index with
  | nil => rfl
  | cons entry rest ih =>
    have hrest := ih (index + 1)
    rw [Nat.add_right_comm] at hrest
    cases h : Session.ofValue entry with
    | ok s => rw [skippedFrom_cons_ok _ rest h, skippedFrom_cons_ok _ rest h, hrest]
    | error m =>
      rw [skippedFrom_cons_error _ rest h, skippedFrom_cons_error _ rest h, hrest, List.map_cons]

theorem skippedFrom_append (index : Nat) (before after : List Value) :
    skippedFrom index (before ++ after) =
      skippedFrom index before ++ skippedFrom (index + before.length) after := by
  rw [skippedFrom, List.zipIdx_append, List.filterMap_append]
  rfl

/-- Warnings counted from a later place are the warnings counted from the first, moved there. -/
theorem decodeEntries_add (n : Nat) (entries : List Value) :
    decodeEntries n entries =
      ((decodeEntries 0 entries).1.map (Event.movedBy n), (decodeEntries 0 entries).2) := by
  have hplaces := skippedFrom_add 0 n entries
  rw [Nat.zero_add] at hplaces
  rw [decodeEntries_eq, decodeEntries_eq, hplaces, List.map_map, List.map_map]
  rfl

/-- Entries behind others are decoded as they are by themselves, at places behind the others. -/
theorem decodeEntries_append (before after : List Value) :
    decodeEntries 0 (before ++ after) =
      ((decodeEntries 0 before).1 ++ (decodeEntries 0 after).1.map (Event.movedBy before.length),
        (decodeEntries 0 before).2 ++ (decodeEntries 0 after).2) := by
  have hafter := decodeEntries_add before.length after
  rw [decodeEntries_eq] at hafter
  obtain ⟨hskipped, hsessions⟩ := Prod.mk.inj hafter
  rw [decodeEntries_eq, skippedFrom_append, sessionsOf_append, List.map_append, Nat.zero_add,
    hskipped, hsessions, decodeEntries_eq 0 before]

/-- Another entry in the place of one changes what becomes of that one only. -/
theorem decodeEntries_split (before : List Value) (entry : Value) (after : List Value) :
    decodeEntries 0 (before ++ entry :: after) =
      let front := decodeEntries 0 before
      let back := decodeEntries (before.length + 1) after
      match Session.ofValue entry with
      | .ok s => (front.1 ++ back.1, front.2 ++ s :: back.2)
      | .error m => (front.1 ++ .entrySkipped before.length m :: back.1, front.2 ++ back.2) := by
  rw [decodeEntries_eq, skippedFrom_split, sessionsOf_append, Nat.zero_add, decodeEntries_eq 0,
    decodeEntries_eq]
  cases h : Session.ofValue entry with
  | ok s =>
    simp only [skipped?, h, sessionsOf_cons_ok after h, Option.toList_none, List.append_nil,
      List.map_append]
  | error m =>
    simp only [skipped?, h, sessionsOf_cons_error after h, Option.toList_some, skipWarning,
      List.map_append, List.map_cons, List.append_assoc, List.singleton_append]

/-! ## All entries -/

/-- Decoding entries gives what those that can be decoded are decoded as, in their order, and for
each other entry one warning, in rising order of their places among all entries, with what is wrong
with that entry. Two lists one after the other give what each gives, with the places of the second
behind the first; and there is a fixed front and back to what becomes of an entry among others. -/
theorem decodeEntries_each (entries : List Value) :
    (∃ skips : List (Nat × Mismatch),
      (decodeEntries 0 entries).1 = skips.map (fun skip => .entrySkipped skip.1 skip.2) ∧
      (decodeEntries 0 entries).1.map Event.entry = skips.map (fun (index, m) =>
        (.warn, "Skipping unreadable session entry",
          [("index", toString index), ("error", m.message)])) ∧
      (decodeEntries 0 entries).2.map .ok = (entries.map Session.ofValue).filter Except.isOk ∧
      (skips.map (·.1)).Pairwise (· < ·) ∧
      (∀ index m, (index, m) ∈ skips ↔
        ∃ entry, entries[index]? = some entry ∧ Session.ofValue entry = .error m) ∧
      (decodeEntries 0 entries).2.length + skips.length = entries.length) ∧
    (∀ others : List Value, decodeEntries 0 (entries ++ others) =
      ((decodeEntries 0 entries).1 ++
          (decodeEntries 0 others).1.map (Event.movedBy entries.length),
        (decodeEntries 0 entries).2 ++ (decodeEntries 0 others).2)) ∧
    ∀ others : List Value, ∃ warnings sessions, ∀ entry : Value,
      decodeEntries 0 (entries ++ entry :: others) = match Session.ofValue entry with
        | .ok s => ((decodeEntries 0 entries).1 ++ warnings,
            (decodeEntries 0 entries).2 ++ s :: sessions)
        | .error m => ((decodeEntries 0 entries).1 ++ .entrySkipped entries.length m :: warnings,
            (decodeEntries 0 entries).2 ++ sessions) := by
  refine ⟨⟨skippedFrom 0 entries, ?_⟩, decodeEntries_append entries, fun others => ?_⟩
  · rw [decodeEntries_eq]
    exact ⟨rfl, map_entry_skipWarning _, map_ok_sessionsOf entries, pairwise_skippedFrom 0 entries,
      fun _ _ => mem_skippedFrom_iff, length_sessionsOf_add 0 entries⟩
  · exact ⟨_, _, fun entry => decodeEntries_split entries entry others⟩

end SessionInventory
