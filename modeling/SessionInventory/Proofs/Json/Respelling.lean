import Mathlib.Data.List.Perm.Basic
import SessionInventory.Proofs.Json.Documents

/-!
# Texts that spell the same

Two texts respell one another (`Respells`) if they differ in the blanks between tokens, in the order
of the members of their objects, wherever these stand and as long as no name repeats in one of them,
and in how their names and scalars are written. Then they spell one value, equally deep
(`Respells.exists_spells`), and since a document spells one object only
(`SpellsDocument.eq_of_spells`), what respells a document is a document of the same members
(`RespellsDocument.spells`).
-/

namespace SessionInventory.Json

/-! ## Items under another reading -/

section

variable {α β : Type} {item : List Char → Nat → α → Prop} {image : List Char → Nat → β → Prop}
  {t : List Char} {d : Nat}

/-- Listed items are listed as whatever each of them is. -/
theorem Listed.map {xs : List α} (h : Listed item t d xs) (depth : α → Nat) (f : α → β)
    (hi : ∀ x ∈ xs, ∀ t d, item t d x → image t (depth x) (f x)) :
    Listed image t ((xs.map depth).foldr max 0) (xs.map f) := by
  induction h with
  | @one b t a d x hb hx ha =>
    have hone := Listed.one hb (hi x List.mem_cons_self t d hx) ha
    rwa [← Nat.max_zero (depth x)] at hone
  | @more b t a d x ts e xs hb hx ha hs ih =>
    have hrest := ih fun y hy => hi y (List.mem_cons_of_mem x hy)
    exact .more hb (hi x List.mem_cons_self t d hx) ha hrest

/-- Listed members make up an object whose values are what their texts spell. -/
theorem spellsValue_of_listed {members : List (String × α)}
    (h : Listed (SpellsMember item) t d members) (depth : String × α → Nat)
    (value : String × α → Value)
    (hi : ∀ m ∈ members, ∀ t d, item t d m.2 → SpellsValue t (depth m) (value m)) :
    SpellsValue ('{' :: t ++ ['}']) ((members.map depth).foldr max 0 + 1)
      (.object (Table.ofList (members.map fun m => (m.1, value m)))) := by
  have hmembers : Listed (SpellsMember SpellsValue) t ((members.map depth).foldr max 0)
      (members.map fun m => (m.1, value m)) := by
    refine h.map _ _ fun m hm u e hu => ?_
    cases hu with
    | mk hn hb ha hx => exact .mk hn hb ha (hi _ hm _ _ hx)
  exact .object hmembers (Table.sorted_ofList _) (Table.find?_ofList _)

end

/-! ## Values -/

/-- The first of two texts. -/
inductive IsFirst : List Char → Nat → List Char × List Char → Prop where
  | intro (t u) : IsFirst t 0 (t, u)

/-- The second of two texts. -/
inductive IsSecond : List Char → Nat → List Char × List Char → Prop where
  | intro (t u) : IsSecond u 0 (t, u)

theorem IsFirst.eq {t : List Char} {d : Nat} {texts : List Char × List Char}
    (h : IsFirst t d texts) : texts.1 = t := by
  cases h; rfl

theorem IsSecond.eq {t : List Char} {d : Nat} {texts : List Char × List Char}
    (h : IsSecond t d texts) : texts.2 = t := by
  cases h; rfl

/-- Two texts of values that differ at most in their blanks, in the order of the members of objects
without repeated names, and in how names and scalars are written. Elements and members come with
both of their texts. -/
inductive Respells : List Char → List Char → Prop where
  | scalar {t u v} (ht : SpellsValue t 0 v) (hu : SpellsValue u 0 v) : Respells t u
  | emptyArray {a b} (ha : Blank a) (hb : Blank b) :
      Respells ('[' :: a ++ [']']) ('[' :: b ++ [']'])
  | array {t d u e} {elements : List (List Char × List Char)} (ht : Listed IsFirst t d elements)
      (hu : Listed IsSecond u e elements) (h : ∀ texts ∈ elements, Respells texts.1 texts.2) :
      Respells ('[' :: t ++ [']']) ('[' :: u ++ [']'])
  | emptyObject {a b} (ha : Blank a) (hb : Blank b) :
      Respells ('{' :: a ++ ['}']) ('{' :: b ++ ['}'])
  | object {t d u e} {members others : List (String × List Char × List Char)}
      (ht : Listed (SpellsMember IsFirst) t d members)
      (hu : Listed (SpellsMember IsSecond) u e others) (hp : members.Perm others)
      (hn : (members.map (·.1)).Nodup) (h : ∀ m ∈ members, Respells m.2.1 m.2.2) :
      Respells ('{' :: t ++ ['}']) ('{' :: u ++ ['}'])

/-- Two members with different names may change places. -/
theorem Respells.exchanged {s t s' t' a b a' b' : List Char} {d e d' e' : Nat}
    {m n : String × List Char × List Char} (hne : m.1 ≠ n.1)
    (hm : SpellsMember IsFirst s d m) (hn : SpellsMember IsFirst t e n)
    (hm' : SpellsMember IsSecond s' d' m) (hn' : SpellsMember IsSecond t' e' n)
    (ha : Blank a) (hb : Blank b) (ha' : Blank a') (hb' : Blank b')
    (h : Respells m.2.1 m.2.2) (k : Respells n.2.1 n.2.2) :
    Respells ('{' :: (s ++ ',' :: t) ++ ['}'])
      ('{' :: (a ++ t' ++ b ++ ',' :: (a' ++ s' ++ b')) ++ ['}']) := by
  have hgiven : Listed (SpellsMember IsFirst) (s ++ ',' :: t) (max d e) [m, n] := by
    simpa using Listed.more Blank.nil hm .nil (.one .nil hn .nil)
  have hother : Listed (SpellsMember IsSecond) (a ++ t' ++ b ++ ',' :: (a' ++ s' ++ b')) (max e' d')
      [n, m] := .more ha hn' hb (.one ha' hm' hb')
  refine .object hgiven hother (.swap n m []) ?_ ?_
  · simpa using hne
  · simpa using ⟨h, k⟩

/-- Texts that respell one another spell one value, equally deep. -/
theorem Respells.exists_spells {t u : List Char} (h : Respells t u) :
    ∃ d v, SpellsValue t d v ∧ SpellsValue u d v := by
  have : Nonempty Value := ⟨.null⟩
  induction h with
  | scalar ht hu => exact ⟨0, _, ht, hu⟩
  | emptyArray ha hb => exact ⟨1, _, .emptyArray ha, .emptyArray hb⟩
  | emptyObject ha hb => exact ⟨1, _, .emptyObject ha, .emptyObject hb⟩
  | array ht hu h ih =>
    choose! depth value hfirst hsecond using ih
    have ht' := ht.map depth value fun texts hm t d hi => hi.eq ▸ hfirst texts hm
    have hu' := hu.map depth value fun texts hm t d hi => hi.eq ▸ hsecond texts hm
    exact ⟨_, _, .array ht', .array hu'⟩
  | @object t d u e members others ht hu hp hn h ih =>
    choose! depth value hfirst hsecond using ih
    have ht' := spellsValue_of_listed ht depth value fun m hm t d hi => hi.eq ▸ hfirst m hm
    have hu' := spellsValue_of_listed hu depth value fun m hm t d hi =>
      hi.eq ▸ hsecond m (hp.mem_iff.mpr hm)
    have hdepth : (members.map depth).foldr max 0 = (others.map depth).foldr max 0 :=
      (hp.map depth).foldr_eq 0
    have htable : Table.ofList (members.map fun m => (m.1, value m)) =
        Table.ofList (others.map fun m => (m.1, value m)) := by
      refine Table.ofList_eq_of_perm (hp.map _) ?_
      rwa [List.map_map]
    rw [hdepth, htable] at ht'
    exact ⟨_, _, ht', hu'⟩

/-! ## Documents -/

/-- Of an object with blanks around it only this object is spelled. -/
theorem SpellsDocument.eq_of_spells {before t after : List Char} {d : Nat} {v : Value}
    {members : Table Value} (h : SpellsDocument (before ++ t ++ after) members)
    (hbefore : Blank before) (ht : SpellsValue t d v) (hafter : Blank after) :
    d ≤ 127 ∧ v = .object members := by
  obtain ⟨b, u, a, e, hb, hu, he, ha, heq⟩ := h
  -- one reader reads the text both as the value and as the document
  have hgiven := readsWithin_valueWithin 127 ht (Stops.blank_append hafter Stops.nil)
  have hfound := readsWithin_valueWithin 127 hu (Stops.blank_append ha Stops.nil)
  rw [List.append_nil, ← valueWithin_blank_append hbefore, ← List.append_assoc, heq] at hgiven
  rw [List.append_nil, ← valueWithin_blank_append hb, ← List.append_assoc, hgiven,
    if_pos he] at hfound
  split at hfound
  · cases hfound
    exact ⟨‹_›, rfl⟩
  · cases hfound

/-- Two texts of documents that differ at most as the texts of values may. -/
def RespellsDocument (text other : List Char) : Prop :=
  ∃ before t after before' u after', Blank before ∧ Blank after ∧ Blank before' ∧ Blank after' ∧
    Respells t u ∧ text = before ++ t ++ after ∧ other = before' ++ u ++ after'

/-- What respells a document is a document of the same members. -/
theorem RespellsDocument.spells {text other : List Char} {members : Table Value}
    (h : RespellsDocument text other) (hm : SpellsDocument text members) :
    SpellsDocument other members := by
  obtain ⟨before, t, after, before', u, after', hb, ha, hb', ha', hr, rfl, rfl⟩ := h
  obtain ⟨d, v, ht, hu⟩ := hr.exists_spells
  obtain ⟨hd, rfl⟩ := hm.eq_of_spells hb ht ha
  exact ⟨before', u, after', d, hb', hu, hd, ha', rfl⟩

end SessionInventory.Json
