import SessionInventory.Json.Printer
import SessionInventory.Proofs.Json.Documents

/-!
# Reading what was written

A value without floats is spelled by its text over lines, and its containers stand as deep in one
another there as they do in the value (`spells_writePretty`). Members may be written in any order,
and the reader arranges them (`Value.arranged`); what is ordered already comes back as it is
(`Value.Ordered.arranged_eq`). So a value of at most 127 containers in one another is read from its
own text (`read_pretty`), and from a deeper one nothing is (`read_pretty_too_deep`).
-/

namespace SessionInventory.Json

/-! ## Values without floats, and ordered values -/

/-- No number in a value is a float. -/
inductive Value.Floatless : Value → Prop where
  | null : Floatless .null
  | bool (b : Bool) : Floatless (.bool b)
  | whole (n : Int) (h : -0x8000000000000000 ≤ n ∧ n < 0x10000000000000000) :
      Floatless (.number (.whole n h))
  | string (s : String) : Floatless (.string s)
  | array {vs : List Value} (h : ∀ v ∈ vs, v.Floatless) : Floatless (.array vs)
  | object {ms : List (String × Value)} (h : ∀ m ∈ ms, m.2.Floatless) : Floatless (.object ms)

/-- The members of every object in a value form a table in key order, as they do in every value that
was read. -/
inductive Value.Ordered : Value → Prop where
  | null : Ordered .null
  | bool (b : Bool) : Ordered (.bool b)
  | number (n : Number) : Ordered (.number n)
  | string (s : String) : Ordered (.string s)
  | array {vs : List Value} (h : ∀ v ∈ vs, v.Ordered) : Ordered (.array vs)
  | object {ms : Table Value} (hs : ms.Sorted) (h : ∀ m ∈ ms, m.2.Ordered) : Ordered (.object ms)

/-- Whatever a text spells is ordered. -/
theorem SpellsValue.ordered {t : List Char} {d : Nat} {v : Value} (h : SpellsValue t d v) :
    v.Ordered := by
  -- what stands in a container is less deep
  induction d using Nat.strongRecOn generalizing t v with
  | ind d ih =>
    cases h with
    | null => exact .null
    | true => exact .bool _
    | false => exact .bool _
    | number h hv => exact .number _
    | string h => exact .string _
    | emptyArray hb => exact .array (List.forall_mem_nil _)
    | array h =>
      refine .array fun v hv => ?_
      obtain ⟨u, e, hu, he⟩ := h.exists_of_mem hv
      exact ih e (Nat.lt_succ_of_le he) hu
    | emptyObject hb => exact .object .nil (List.forall_mem_nil _)
    | @object _ _ ms _ h hs hf =>
      refine .object hs fun (name, v) hm => ?_
      have hfind := hs.find?_eq_some_iff.mpr hm
      rw [hf, ← Table.find?_eq_lookup] at hfind
      obtain ⟨u, e, hu, he⟩ := h.exists_of_mem (List.mem_reverse.mp (Table.mem_of_find? hfind))
      obtain ⟨hn, hb, ha, hv⟩ := hu
      exact ih e (Nat.lt_succ_of_le he) hv

theorem Value.floatless_array_iff {vs : List Value} :
    (Value.array vs).Floatless ↔ ∀ v ∈ vs, v.Floatless :=
  ⟨fun | .array h => h, .array⟩

theorem Value.floatless_object_iff {ms : List (String × Value)} :
    (Value.object ms).Floatless ↔ ∀ m ∈ ms, m.2.Floatless :=
  ⟨fun | .object h => h, .object⟩

mutual

/-- A value with the members of every object in key order; of two with one name the later stays. -/
def Value.arranged : Value → Value
  | .array vs => .array (arrangedElements vs)
  | .object ms => .object (Table.ofList (arrangedMembers ms))
  | v => v

/-- The elements of an array, each arranged. -/
def arrangedElements : List Value → List Value
  | [] => []
  | v :: vs => v.arranged :: arrangedElements vs

/-- The members of an object, each arranged. -/
def arrangedMembers : List (String × Value) → List (String × Value)
  | [] => []
  | (k, v) :: ms => (k, v.arranged) :: arrangedMembers ms

end

theorem arrangedElements_eq_map (vs : List Value) : arrangedElements vs = vs.map Value.arranged := by
  induction vs with
  | nil => rfl
  | cons v vs ih => rw [arrangedElements, ih, List.map_cons]

theorem arrangedMembers_eq_map (ms : List (String × Value)) :
    arrangedMembers ms = ms.map fun m => (m.1, m.2.arranged) := by
  induction ms with
  | nil => rfl
  | cons m ms ih => rw [arrangedMembers, ih, List.map_cons]

/-- An ordered value is arranged already. -/
theorem Value.Ordered.arranged_eq {v : Value} (h : v.Ordered) : v.arranged = v := by
  induction h with
  | null => rfl
  | bool b => rfl
  | number n => rfl
  | string s => rfl
  | @array vs h ih =>
    have hvs : vs.map Value.arranged = vs := (List.map_congr_left ih).trans (List.map_id' vs)
    rw [Value.arranged, arrangedElements_eq_map, hvs]
  | @object ms hs h ih =>
    have hms : ms.map (fun m => (m.1, m.2.arranged)) = ms :=
      (List.map_congr_left fun m hm => by rw [ih m hm]).trans (List.map_id' ms)
    rw [Value.arranged, arrangedMembers_eq_map, hms, Table.ofList_of_sorted hs]

/-! ## Depth -/

theorem nestingOfElements_eq_foldr (vs : List Value) :
    nestingOfElements vs = vs.foldr (fun v d => max v.nesting d) 0 := by
  induction vs with
  | nil => rfl
  | cons v vs ih => rw [nestingOfElements, ih, List.foldr_cons]

theorem nestingOfMembers_eq_foldr (ms : List (String × Value)) :
    nestingOfMembers ms = ms.foldr (fun m d => max m.2.nesting d) 0 := by
  induction ms with
  | nil => rfl
  | cons m ms ih => rw [nestingOfMembers, ih, List.foldr_cons]

theorem nestingOfElements_le_iff {vs : List Value} {n : Nat} :
    nestingOfElements vs ≤ n ↔ ∀ v ∈ vs, v.nesting ≤ n := by
  induction vs with
  | nil => simp [nestingOfElements]
  | cons v vs ih => rw [nestingOfElements, Nat.max_le, ih, List.forall_mem_cons]

theorem nestingOfMembers_le_iff {ms : List (String × Value)} {n : Nat} :
    nestingOfMembers ms ≤ n ↔ ∀ m ∈ ms, m.2.nesting ≤ n := by
  induction ms with
  | nil => simp [nestingOfMembers]
  | cons m ms ih => rw [nestingOfMembers, Nat.max_le, ih, List.forall_mem_cons]

/-! ## Whole numbers -/

theorem le_ofDigitChars (ds : List Char) (m : Nat) : m ≤ Nat.ofDigitChars 10 ds m := by
  induction ds generalizing m with
  | nil => exact Nat.le_of_eq Nat.ofDigitChars_nil.symm
  | cons d ds ih =>
    rw [Nat.ofDigitChars_cons]
    refine Nat.le_trans ?_ (ih _)
    omega

/-- Digits of a number that 64 bits hold are taken to the last. -/
theorem takeInteger_eq {ds : List Char} {m : Nat}
    (h : Nat.ofDigitChars 10 ds m < 0x10000000000000000) :
    Significand.takeInteger m ds = ⟨Nat.ofDigitChars 10 ds m, 0⟩ := by
  induction ds generalizing m with
  | nil => rw [Significand.takeInteger, Nat.ofDigitChars_nil]
  | cons d ds ih =>
    rw [Nat.ofDigitChars_cons] at h ⊢
    have hd : 10 * m + digitValue d < 0x10000000000000000 :=
      Nat.lt_of_le_of_lt (le_ofDigitChars ds _) h
    rw [Significand.takeInteger, if_pos hd, digitValue, ih h]

theorem digitChar_ne_zero : ∀ n < 10, 0 < n → n.digitChar ≠ '0' := by decide

/-- The first digit of a number is no zero unless the number is. -/
theorem head?_toDigits {n : Nat} (hn : 0 < n) : (Nat.toDigits 10 n).head? ≠ some '0' := by
  induction n using Nat.base_induction 10 (by decide) with
  | single m hm =>
    rw [Nat.toDigits_of_lt_base hm]
    exact fun h => digitChar_ne_zero m hm hn (Option.some.inj h)
  | digit m k hk hm ih =>
    rw [← Nat.toDigits_append_toDigits (by decide) hm hk,
      List.head?_append, List.head?_eq_some_head Nat.toDigits_ne_nil, Option.some_or,
      ← List.head?_eq_some_head]
    exact ih hm

theorem spellsInteger_toDigits (n : Nat) : SpellsInteger (Nat.toDigits 10 n) := by
  by_cases hn : n = 0
  · rw [hn, Nat.toDigits_zero]
    exact .zero
  · refine .digits ⟨Nat.toDigits_ne_nil, fun c hc => ?_⟩ (head?_toDigits (Nat.pos_of_ne_zero hn))
    exact Nat.isDigit_of_mem_toDigits (by decide) (by decide) hc

/-- A literal without fraction and exponent is a whole number if 64 bits hold it and its digits. -/
theorem value?_eq_whole {l : Literal} {digits : Nat} {n : Int} (hf : l.fraction = [])
    (he : l.exponent = none) (hs : l.significand = ⟨digits, 0⟩)
    (hn : (if l.negative then -(digits : Int) else digits) = n)
    (h : -0x8000000000000000 ≤ n ∧ n < 0x10000000000000000)
    (hz : ¬(l.negative ∧ n = 0)) : l.value? = some (.whole n h) := by
  subst hn
  simp only [Literal.value?, hs]
  rw [if_pos ⟨hf, he, trivial⟩, dif_pos ⟨h.1, h.2, hz⟩]

theorem significand_toDigits (negative : Bool) {n : Nat} (hn : n < 0x10000000000000000) :
    Literal.significand ⟨negative, Nat.toDigits 10 n, [], none⟩ = ⟨n, 0⟩ := by
  rw [Literal.significand, takeInteger_eq (by rwa [Nat.ofDigitChars_ten_toDigits]),
    Nat.ofDigitChars_ten_toDigits, Significand.takeFraction]

/-- A whole number is written as a literal that stands for it. -/
theorem exists_literal_writeInt {n : Int} (h : -0x8000000000000000 ≤ n ∧ n < 0x10000000000000000) :
    ∃ l, SpellsLiteral (writeInt n) l ∧ l.value? = some (.whole n h) := by
  cases n with
  | ofNat n =>
    have hn : (n : Int) < 0x10000000000000000 := h.2
    have hspelled := SpellsLiteral.unsigned (spellsInteger_toDigits n) .absent .absent
    rw [List.append_nil, List.append_nil] at hspelled
    have hs := significand_toDigits false (n := n) (by omega)
    exact ⟨_, hspelled, value?_eq_whole (n := .ofNat n) rfl rfl hs (if_neg Bool.false_ne_true) h
      fun hz => Bool.false_ne_true hz.1⟩
  | negSucc n =>
    have hn : -0x8000000000000000 ≤ -((n : Int) + 1) := Int.negSucc_eq n ▸ h.1
    have hspelled := SpellsLiteral.negative (spellsInteger_toDigits (n + 1)) .absent .absent
    rw [List.append_nil, List.append_nil] at hspelled
    have hs := significand_toDigits true (n := n + 1) (by omega)
    exact ⟨_, hspelled, value?_eq_whole (n := .negSucc n) rfl rfl hs (if_pos rfl) h
      fun hz => Int.negSucc_ne_zero n hz.2⟩

/-! ## Lines -/

theorem blank_newline (level : Nat) : Blank (newline level) := by
  intro c hc
  rw [newline, List.mem_cons, List.mem_replicate] at hc
  rcases hc with rfl | ⟨-, rfl⟩
  · exact .inr (.inr (.inl rfl))
  · exact .inl rfl

/-- Items on lines of their own, each but the last with a comma behind it, are listed. -/
theorem listed_lines {α β : Type} {spells : List Char → Nat → β → Prop} {write : α → List Char}
    {depth : α → Nat} {image : α → β} {lead trail : List Char} (hl : Blank lead) (ht : Blank trail)
    (x : α) (xs : List α) (h : ∀ y ∈ x :: xs, spells (write y) (depth y) (image y)) :
    Listed spells (lead ++ write x ++ xs.flatMap (fun y => ',' :: lead ++ write y) ++ trail)
      ((x :: xs).foldr (fun y d => max (depth y) d) 0) ((x :: xs).map image) := by
  induction xs generalizing x with
  | nil =>
    have hone := Listed.one hl (h x List.mem_cons_self) ht
    simpa only [List.flatMap_nil, List.append_nil, List.foldr_cons, List.foldr_nil, Nat.max_zero,
      List.map_cons, List.map_nil] using hone
  | cons y ys ih =>
    have hmore := Listed.more hl (h x List.mem_cons_self) Blank.nil
      (ih y fun z hz => h z (List.mem_cons_of_mem x hz))
    simpa only [List.flatMap_cons, List.append_assoc, List.nil_append, List.cons_append,
      List.foldr_cons, List.map_cons] using hmore

theorem writeElementLines_eq_flatMap (level : Nat) (vs : List Value) :
    writeElementLines level vs =
      vs.flatMap fun v => ',' :: newline level ++ v.writePretty level := by
  induction vs with
  | nil => rfl
  | cons v vs ih => rw [writeElementLines, ih, List.flatMap_cons]

/-- A member on its line. -/
def memberLine (level : Nat) (m : String × Value) : List Char :=
  writeString m.1 ++ ':' :: ' ' :: m.2.writePretty level

theorem writeMemberLines_eq_flatMap (level : Nat) (ms : List (String × Value)) :
    writeMemberLines level ms = ms.flatMap fun m => ',' :: newline level ++ memberLine level m := by
  induction ms with
  | nil => rfl
  | cons m ms ih =>
    rw [writeMemberLines, ih, List.flatMap_cons, memberLine]
    simp only [List.append_assoc]

theorem spellsMember_memberLine {level : Nat} {m : String × Value} {w : Value}
    (h : SpellsValue (m.2.writePretty level) m.2.nesting w) :
    SpellsMember SpellsValue (memberLine level m) m.2.nesting (m.1, w) := by
  have hspace : Blank [' '] := fun c hc => .inl (List.mem_singleton.mp hc)
  have hm := SpellsMember.mk (spellsString_writeString m.1) Blank.nil hspace h
  rwa [List.append_nil] at hm

/-! ## Written values -/

/-- A value without floats is spelled by its text over lines. -/
theorem spells_writePretty {v : Value} (h : v.Floatless) (level : Nat) :
    SpellsValue (v.writePretty level) v.nesting v.arranged := by
  induction h generalizing level with
  | null => exact .null
  | bool b =>
    cases b with
    | true => exact .true
    | false => exact .false
  | whole n h =>
    obtain ⟨l, hl, hv⟩ := exists_literal_writeInt h
    exact .number hl hv
  | string s => exact .string (spellsString_writeString s)
  | @array vs h ih =>
    cases vs with
    | nil => exact .emptyArray Blank.nil
    | cons v vs =>
      have hlines := listed_lines (blank_newline (level + 1)) (blank_newline level) v vs
        fun w hw => ih w hw (level + 1)
      rw [← nestingOfElements_eq_foldr, ← arrangedElements_eq_map,
        ← writeElementLines_eq_flatMap] at hlines
      rw [Value.nesting, Value.arranged, Value.writePretty]
      simpa only [List.append_assoc, List.cons_append] using SpellsValue.array hlines
  | @object ms h ih =>
    cases ms with
    | nil => exact .emptyObject Blank.nil
    | cons m ms =>
      have hlines := listed_lines (blank_newline (level + 1)) (blank_newline level) m ms
        fun w hw => spellsMember_memberLine (ih w hw (level + 1))
      rw [← nestingOfMembers_eq_foldr, ← arrangedMembers_eq_map,
        ← writeMemberLines_eq_flatMap] at hlines
      obtain ⟨k, v⟩ := m
      rw [Value.nesting, Value.arranged, Value.writePretty]
      have hobject := SpellsValue.object hlines (Table.sorted_ofList _) (Table.find?_ofList _)
      simpa only [memberLine, List.append_assoc, List.cons_append] using hobject

theorem spells_pretty {v : Value} (h : v.Floatless) :
    SpellsValue v.pretty.toList v.nesting v.arranged := by
  rw [Value.pretty, String.toList_ofList]
  exact spells_writePretty h 0

/-- A value without floats is read from its own text over lines, arranged. -/
theorem read_pretty {v : Value} (h : v.Floatless) (hd : v.nesting ≤ 127) :
    read v.pretty = .ok v.arranged :=
  read_spelled (spells_pretty h) hd

theorem read_pretty_too_deep {v : Value} (h : v.Floatless) (hd : 127 < v.nesting) :
    ∃ e, read v.pretty = .error e ∧ e.flaw = .tooDeep :=
  read_too_deep (spells_pretty h) hd

end SessionInventory.Json
