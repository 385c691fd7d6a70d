import Mathlib.Data.List.Induction
import Mathlib.Data.List.Nodup
import SessionInventory.Table

/-!
# What a table holds

A table in key order is determined by what its keys stand for (`Sorted.ext`), and a pair stands in
it exactly if looking up the key gives the value (`Sorted.find?_eq_some_iff`). Of a table made of
entries:

* `find?_ofList`: a key stands for what its last entry says;
* `mem_ofList_iff`: the pairs of the table are the entries that no later entry of their key follows;
* `mem_keys_ofList`: the keys of the table are those of the entries;
* `ofList_of_sorted`: entries in key order are the table that they make;
* `find?_ofList_of_nodup`, `ofList_eq_of_perm`: where no key repeats, every key stands for what its
  entry says, and the order of the entries does not matter.
-/

namespace SessionInventory.Table

variable {α : Type}

theorem find?_eq_lookup (key : String) (t : Table α) : t.find? key = t.lookup key := by
  induction t with
  | nil => rfl
  | cons entry rest ih =>
    rw [find?, List.lookup_cons, ih]
    by_cases h : entry.1 = key
    · rw [if_pos h, beq_iff_eq.mpr h.symm]
    · rw [if_neg h, beq_eq_false_iff_ne.mpr (Ne.symm h)]

theorem mem_of_find? {key : String} {value : α} {t : Table α} (h : t.find? key = some value) :
    (key, value) ∈ t := by
  rw [find?_eq_lookup] at h
  obtain ⟨front, back, rfl, -⟩ := List.lookup_eq_some_iff.mp h
  exact List.mem_append_right front List.mem_cons_self

theorem find?_eq_none_iff {key : String} {t : Table α} :
    t.find? key = none ↔ ∀ entry ∈ t, entry.1 ≠ key := by
  rw [find?_eq_lookup, List.lookup_eq_none_iff]
  exact forall₂_congr fun entry _ => bne_iff_ne.trans ne_comm

/-- One more entry with a key of its own. -/
theorem find?_concat {t : Table α} {entry : String × α} (h : t.find? entry.1 = none)
    (key : String) :
    find? key (t ++ [entry]) = if entry.1 = key then some entry.2 else t.find? key := by
  rw [find?_eq_lookup, List.lookup_append, ← find?_eq_lookup, ← find?_eq_lookup key [entry], find?]
  split
  · subst key
    rw [h, Option.none_or]
  · rw [find?, Option.or_none]

/-- Where no key repeats, a key stands for a value exactly if they are an entry. -/
theorem find?_eq_some_iff_of_nodup {t : Table α} (hn : (t.map (·.1)).Nodup) {key : String}
    {value : α} : t.find? key = some value ↔ (key, value) ∈ t := by
  refine ⟨mem_of_find?, fun hm => ?_⟩
  induction t with
  | nil => exact absurd hm List.not_mem_nil
  | cons entry rest ih =>
    obtain ⟨hfirst, hlater⟩ := List.nodup_cons.mp hn
    rw [find?]
    rcases List.mem_cons.mp hm with rfl | hm
    · rw [if_pos rfl]
    · have hne : entry.1 ≠ key := fun heq => hfirst (List.mem_map.mpr ⟨_, hm, heq.symm⟩)
      rw [if_neg hne, ih hlater hm]

/-! ## Tables in key order -/

/-- The keys of a table in key order are in strictly rising order. -/
theorem Sorted.keys_pairwise {t : Table α} (h : t.Sorted) : t.keys.Pairwise Before :=
  List.pairwise_map.mpr h

/-- A pair stands in a table exactly if its key stands for its value. -/
theorem Sorted.find?_eq_some_iff {t : Table α} (h : t.Sorted) {key : String} {value : α} :
    t.find? key = some value ↔ (key, value) ∈ t := by
  refine find?_eq_some_iff_of_nodup (List.Pairwise.imp (fun {a _} hb heq => ?_) h.keys_pairwise)
  exact Before.irrefl a (heq ▸ hb)

theorem Sorted.nodup {t : Table α} (h : t.Sorted) : t.Nodup :=
  List.Pairwise.imp (S := (· ≠ ·)) (fun {a _} hb heq => Before.irrefl a.1 (heq ▸ hb)) h

/-- What its keys stand for determines a table. -/
theorem Sorted.ext {s t : Table α} (hs : s.Sorted) (ht : t.Sorted)
    (h : ∀ key, s.find? key = t.find? key) : s = t := by
  have hm : ∀ entry, entry ∈ s ↔ entry ∈ t := fun entry => by
    rw [← hs.find?_eq_some_iff, ← ht.find?_eq_some_iff, h]
  have hp : s.Perm t := (List.perm_ext_iff_of_nodup hs.nodup ht.nodup).mpr hm
  exact hp.eq_of_pairwise (fun _ _ _ _ hab hba => absurd (hab.trans hba) (Before.irrefl _)) hs ht

/-! ## Tables made of entries -/

/-- Each further entry is inserted into the table of those before it. -/
theorem ofList_concat (entries : List (String × α)) (key : String) (value : α) :
    ofList (entries ++ [(key, value)]) = insert key value (ofList entries) := by
  simp only [ofList, List.foldl_append, List.foldl_cons, List.foldl_nil]

/-- A key stands for what its last entry says. -/
theorem find?_ofList (entries : List (String × α)) (key : String) :
    (ofList entries).find? key = entries.reverse.lookup key := by
  induction entries using List.reverseRecOn with
  | nil => rfl
  | append_singleton front entry ih =>
    rw [ofList_concat, find?_insert, ih, List.reverse_append, List.reverse_singleton,
      List.singleton_append, ← find?_eq_lookup, ← find?_eq_lookup, find?]

/-- The pairs of a table are the entries that no later entry of their key follows. -/
theorem mem_ofList_iff {entries : List (String × α)} {key : String} {value : α} :
    (key, value) ∈ ofList entries ↔
      ∃ front back, entries = front ++ (key, value) :: back ∧ ∀ entry ∈ back, entry.1 ≠ key := by
  rw [← (sorted_ofList entries).find?_eq_some_iff, find?_ofList, List.lookup_eq_some_iff]
  constructor
  · rintro ⟨back, front, he, hb⟩
    refine ⟨front.reverse, back.reverse, ?_, fun entry hm heq => ?_⟩
    · simpa using congrArg List.reverse he
    · simpa [heq] using hb entry (List.mem_reverse.mp hm)
  · rintro ⟨front, back, rfl, hb⟩
    refine ⟨back.reverse, front.reverse, by simp, fun entry hm => ?_⟩
    exact bne_iff_ne.mpr (hb entry (List.mem_reverse.mp hm)).symm

theorem mem_keys_ofList {entries : List (String × α)} {key : String} :
    key ∈ (ofList entries).keys ↔ key ∈ entries.map (·.1) := by
  induction entries using List.reverseRecOn with
  | nil => rfl
  | append_singleton front entry ih =>
    rw [ofList_concat, mem_keys_insert, ih, List.map_append, List.mem_append, or_comm]
    simp only [List.map_cons, List.map_nil, List.mem_singleton]

/-- A key stands for its entry if no later entry has the key. -/
theorem find?_ofList_of_later {front back : List (String × α)} {key : String}
    (h : ∀ entry ∈ back, entry.1 ≠ key) (value : α) :
    (ofList (front ++ (key, value) :: back)).find? key = some value :=
  (sorted_ofList _).find?_eq_some_iff.mpr (mem_ofList_iff.mpr ⟨front, back, rfl, h⟩)

/-- What an entry says makes no difference to other keys. -/
theorem find?_ofList_of_ne {key other : String} (h : other ≠ key) (front back : List (String × α))
    (value value' : α) : (ofList (front ++ (key, value) :: back)).find? other =
      (ofList (front ++ (key, value') :: back)).find? other := by
  have hb : (other == key) = false := beq_eq_false_iff_ne.mpr h
  simp only [find?_ofList, List.reverse_append, List.reverse_cons, List.append_assoc,
    List.lookup_append, List.singleton_append, List.lookup_cons, hb]

/-- Where all entries have one key, the table has a single one, whatever it says. -/
theorem ofList_eq_singleton {front back : List (String × α)} {key : String} {value : α}
    (h : ofList (front ++ (key, value) :: back) = [(key, value)]) (hl : ∀ entry ∈ back, entry.1 ≠ key)
    (value' : α) : ofList (front ++ (key, value') :: back) = [(key, value')] := by
  refine (sorted_ofList _).ext (List.pairwise_singleton _ _) fun other => ?_
  by_cases heq : other = key
  · rw [heq, find?_ofList_of_later hl, find?, if_pos rfl]
  · have hne : key ≠ other := Ne.symm heq
    rw [find?_ofList_of_ne heq front back value' value, h]
    simp only [find?, if_neg hne]

/-- Entries in key order are the table that they make. -/
theorem ofList_of_sorted {t : Table α} (h : t.Sorted) : ofList t = t := by
  refine (sorted_ofList t).ext h fun key => Option.ext fun value => ?_
  rw [find?_ofList, List.lookup_eq_some_iff, h.find?_eq_some_iff]
  constructor
  · rintro ⟨front, back, he, -⟩
    exact List.mem_reverse.mp (he ▸ List.mem_append_right front List.mem_cons_self)
  · intro hm
    obtain ⟨back, front, he⟩ := List.append_of_mem (List.mem_reverse.mpr hm)
    refine ⟨back, front, he, fun entry hb => bne_iff_ne.mpr ?_⟩
    have hs : t = front.reverse ++ (key, value) :: back.reverse := by
      simpa using congrArg List.reverse he
    rw [hs] at h
    have hlater := (List.pairwise_cons.mp (List.pairwise_append.mp h).2.1).1
    rintro rfl
    exact Before.irrefl _ (hlater entry (List.mem_reverse.mpr hb))

/-! ## Entries without repeats -/

/-- Where no key repeats, every key stands for what its entry says. -/
theorem find?_ofList_of_nodup {entries : List (String × α)} (hn : (entries.map (·.1)).Nodup)
    (key : String) : (ofList entries).find? key = find? key entries := by
  have hr : (entries.reverse.map (·.1)).Nodup := by
    rwa [List.map_reverse, List.nodup_reverse]
  refine Option.ext fun value => ?_
  rw [find?_ofList, ← find?_eq_lookup, find?_eq_some_iff_of_nodup hr, List.mem_reverse,
    find?_eq_some_iff_of_nodup hn]

/-- Where no key repeats, the order of the entries does not matter. -/
theorem ofList_eq_of_perm {entries others : List (String × α)} (hp : entries.Perm others)
    (hn : (entries.map (·.1)).Nodup) : ofList entries = ofList others := by
  have hn' : (others.map (·.1)).Nodup := (hp.map _).nodup_iff.mp hn
  refine (sorted_ofList entries).ext (sorted_ofList others) fun key => Option.ext fun value => ?_
  rw [find?_ofList_of_nodup hn, find?_ofList_of_nodup hn', find?_eq_some_iff_of_nodup hn,
    find?_eq_some_iff_of_nodup hn', hp.mem_iff]

end SessionInventory.Table
