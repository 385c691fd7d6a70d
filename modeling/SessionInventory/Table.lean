import SessionInventory.Text.Utf8

/-!
# Tables in key order

A table holds one entry a key, in the order of the UTF-8 bytes of the keys. It is a plain list of
pairs, so that it can stand inside other data; `Table.Sorted` says that the order holds.

* `find?_insert`: an inserted entry is found under its key, and every other key keeps what it had;
* `sorted_ofList`: a table made of entries is in key order, whatever the order of the entries.
-/

namespace SessionInventory

/-- Keys with what they stand for. -/
abbrev Table (α : Type) := List (String × α)

namespace Table

variable {α : Type}

/-- Whether a key stands before another: its bytes come first in dictionary order. -/
def Before (a b : String) : Prop := Utf8.encode a < Utf8.encode b

instance (a b : String) : Decidable (Before a b) :=
  inferInstanceAs (Decidable (Utf8.encode a < Utf8.encode b))

/-- The keys stand in strictly rising order. -/
def Sorted (t : Table α) : Prop := t.Pairwise fun a b => Before a.1 b.1

/-- Puts an entry in its place; an entry that had the key is replaced. -/
def insert (key : String) (value : α) : Table α → Table α
  | [] => [(key, value)]
  | (k, v) :: rest =>
    if key = k then (key, value) :: rest
    else if Before key k then (key, value) :: (k, v) :: rest
    else (k, v) :: insert key value rest

/-- What a key stands for. -/
def find? (key : String) : Table α → Option α
  | [] => none
  | (k, v) :: rest => if k = key then some v else find? key rest

/-- The table of the given entries; of two with one key the later one stays. -/
def ofList (entries : List (String × α)) : Table α :=
  entries.foldl (fun t (key, value) => insert key value t) []

/-- The keys, in order. -/
def keys (t : Table α) : List String := t.map (·.1)

/-! ## The order of keys -/

theorem Before.irrefl (a : String) : ¬Before a a := List.lt_irrefl _

theorem Before.trans {a b c : String} (h : Before a b) (h' : Before b c) : Before a c :=
  List.lt_trans h h'

/-- Of two different keys one stands before the other. -/
theorem before_or_before {a b : String} (h : a ≠ b) : Before a b ∨ Before b a := by
  by_cases hab : Before a b
  · exact .inl hab
  · by_cases hba : Before b a
    · exact .inr hba
    · exact absurd (Utf8.encode_injective (List.le_antisymm hba hab)) h

/-! ## Looking up what was inserted -/

theorem find?_insert (key : String) (value : α) (t : Table α) (other : String) :
    (insert key value t).find? other = if key = other then some value else t.find? other := by
  induction t with
  | nil => rfl
  | cons entry rest ih =>
    simp only [insert]
    split
    next h => subst h; simp only [find?]; split <;> rfl
    next h =>
      split
      · simp only [find?]
      · simp only [find?, ih]
        split
        next h' => subst h'; simp [h]
        next => rfl

theorem mem_keys_insert {key : String} {value : α} {t : Table α} {other : String} :
    other ∈ (insert key value t).keys ↔ other = key ∨ other ∈ t.keys := by
  induction t with
  | nil => simp [insert, keys]
  | cons entry rest ih =>
    simp only [keys, insert] at ih ⊢
    split
    next h => simp [h]
    next h =>
      split
      · simp
      · simp only [List.map_cons, List.mem_cons, ih]
        exact or_left_comm

/-! ## Tables are in order -/

theorem Sorted.insert {t : Table α} (h : t.Sorted) (key : String) (value : α) :
    (insert key value t).Sorted := by
  induction t with
  | nil => exact List.pairwise_singleton _ _
  | cons entry rest ih =>
    obtain ⟨first, later⟩ := List.pairwise_cons.1 h
    simp only [Table.insert]
    split
    next heq => exact List.pairwise_cons.2 ⟨fun e he => heq ▸ first e he, later⟩
    next hne =>
      split
      next hlt =>
        refine List.pairwise_cons.2 ⟨fun e he => ?_, h⟩
        rcases List.mem_cons.1 he with rfl | he
        · exact hlt
        · exact hlt.trans (first e he)
      next hlt =>
        refine List.pairwise_cons.2 ⟨fun e he => ?_, ih later⟩
        rcases mem_keys_insert.1 (List.mem_map_of_mem he) with heq | hmem
        · exact heq ▸ (before_or_before hne).resolve_left hlt
        · obtain ⟨e', he', heq⟩ := List.mem_map.1 hmem
          exact heq ▸ first e' he'

/-- Whatever the order of the entries, the table is in key order. -/
theorem sorted_ofList (entries : List (String × α)) : (ofList entries).Sorted := by
  have : ∀ t : Table α, t.Sorted →
      (entries.foldl (fun t (key, value) => insert key value t) t).Sorted := by
    induction entries with
    | nil => exact fun _ h => h
    | cons entry rest ih => exact fun t h => ih _ (h.insert entry.1 entry.2)
  exact this [] .nil

end Table

end SessionInventory
