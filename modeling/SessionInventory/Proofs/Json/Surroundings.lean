import SessionInventory.Proofs.Json.Documents

/-!
# Places in a text

A text around a scalar is known by what stands in front of the scalar and behind it, and by the value
that comes of whatever stands in between (`Surrounds`). It is put together as the grammar puts values
together: `Beside` is what stands around one of several items in brackets.

* A scalar that is put into its place spells what comes of it, with everything around it as it was
  (`Surrounds.spells`).
* Where the reader finds a flaw in what is put there, it finds the flaw in the whole text
  (`Surrounds.refused`).

With blanks around it, such a text is a document (`SurroundsDocument`): it spells members, or a
number out of range is what is wrong with it.
-/

namespace SessionInventory.Json

/-! ## Places among items -/

section

variable {α : Type}

/-- What stands in front of one of several items and behind it, how deep the other items are, and
what they are. -/
inductive Beside (item : List Char → Nat → α → Prop) :
    List Char → List Char → Nat → List α → List α → Prop where
  | alone {b a} (hb : Blank b) (ha : Blank a) : Beside item b a 0 [] []
  | first {b a ts e ys} (hb : Blank b) (ha : Blank a) (hs : Listed item ts e ys) :
    Beside item b (a ++ ',' :: ts) e [] ys
  | later {b t a d x front back e xs ys} (hb : Blank b) (hx : item t d x) (ha : Blank a)
    (hs : Beside item front back e xs ys) :
    Beside item (b ++ t ++ a ++ ',' :: front) back (max d e) (x :: xs) ys

variable {spells : List Char → Nat → α → Prop} {front back : List Char} {e : Nat} {xs ys : List α}

/-- An item in its place is listed with the others. -/
theorem Beside.listed (h : Beside spells front back e xs ys) {t : List Char} {d : Nat} {x : α}
    (hx : spells t d x) : Listed spells (front ++ t ++ back) (max e d) (xs ++ x :: ys) := by
  induction h with
  | alone hb ha =>
    rw [Nat.zero_max]
    exact .one hb hx ha
  | first hb ha hs =>
    rw [Nat.max_comm, ← List.append_assoc]
    exact .more hb hx ha hs
  | later hb hy ha hs ih =>
    rw [Nat.max_assoc, List.append_assoc, List.append_assoc, List.cons_append, ← List.append_assoc]
    exact .more hb hy ha ih

/-- Every listed item has its place. -/
theorem Listed.exists_beside {t : List Char} {d : Nat} {x : α} {zs : List α}
    (h : Listed spells t d zs) (hz : zs = xs ++ x :: ys) : ∃ front u back e c,
      Beside spells front back e xs ys ∧ spells u c x ∧ t = front ++ u ++ back := by
  induction h generalizing xs with
  | one hb hx ha =>
    rcases List.cons_eq_append_iff.mp hz with ⟨rfl, heq⟩ | ⟨rest, -, heq⟩
    · cases heq
      exact ⟨_, _, _, _, _, .alone hb ha, hx, rfl⟩
    · exact absurd (List.append_eq_nil_iff.mp heq.symm).2 (List.cons_ne_nil x ys)
  | more hb hx ha hs ih =>
    rcases List.cons_eq_append_iff.mp hz with ⟨rfl, heq⟩ | ⟨rest, rfl, heq⟩
    · cases heq
      exact ⟨_, _, _, _, _, .first hb ha hs, hx, by simp only [List.append_assoc]⟩
    · obtain ⟨front, u, back, e, c, hbeside, hu, rfl⟩ := ih heq
      exact ⟨_, _, _, _, _, .later hb hx ha hbeside, hu, by simp⟩

section

variable {n : Nat} {item : Reader α} {b : Bracket} {t : List Char} {flaw : Flaw}
  (ho : ∀ {t d a}, spells t d a → Opens t) (hc : b.Closing) (hr : ReadsWithin n item spells)
  (h : Beside spells front back e xs ys) (he : e ≤ n) (ht : Opens t)
  (hf : ∀ rest, Stops rest → bare (item (t ++ rest)) = .error flaw)

include ho ht h in
/-- Without the blanks before them, items begin with an item. -/
theorem Beside.exists_opens : ∃ a t', Blank a ∧ Opens t' ∧ front ++ t = a ++ t' := by
  cases h with
  | alone hb ha => exact ⟨front, t, hb, ht, rfl⟩
  | first hb ha hs => exact ⟨front, t, hb, ht, rfl⟩
  | @later lead u trail _ _ inner _ _ _ _ hb hx ha hs =>
    exact ⟨lead, u ++ (trail ++ ',' :: (inner ++ t)), hb, (ho hx).append _, by simp⟩

include ho hc hr h he ht hf

/-- A flaw in an item is found when the items are read. -/
theorem bare_series_beside (rest : List Char) :
    bare (series b item ((front ++ t ++ back ++ b.close :: rest).dropWhile isBlank)) =
      .error flaw := by
  induction h with
  | @alone lead trail hb ha =>
    rw [List.append_assoc, List.append_assoc, dropWhile_blank_append hb, (ht.append _).dropWhile,
      bare_series, hf _ ((hc.stops rest).blank_append ha), andThen_error]
  | @first lead trail ts e ys hb ha hs =>
    rw [List.append_assoc, List.append_assoc, dropWhile_blank_append hb, (ht.append _).dropWhile,
      bare_series, List.append_assoc, List.cons_append, hf _ ((Stops.comma _).blank_append ha),
      andThen_error]
  | @later lead u trail d x front back e xs ys hb hx ha hs ih =>
    obtain ⟨hd, he⟩ := Nat.max_le.mp he
    obtain ⟨gap, next, hgap, hopen, hnext⟩ := hs.exists_opens ho ht
    have hbehind : (front ++ t ++ back ++ b.close :: rest).dropWhile isBlank =
        next ++ (back ++ b.close :: rest) := by
      rw [hnext, List.append_assoc, List.append_assoc, dropWhile_blank_append hgap,
        (hopen.append _).dropWhile]
    have hread := ih he
    obtain ⟨c, more, rfl, -, h₁, h₂⟩ := hopen
    rw [hbehind, List.cons_append] at hread
    have hclose : c ≠ b.close := by
      rcases hc with hc | hc <;> rw [hc] <;> assumption
    have hcomma : (trail ++ ',' :: (front ++ t ++ back ++ b.close :: rest)).dropWhile isBlank =
        ',' :: (front ++ t ++ back ++ b.close :: rest) := by
      rw [dropWhile_blank_append ha]
      rfl
    rw [show lead ++ u ++ trail ++ ',' :: front ++ t ++ back ++ b.close :: rest =
        lead ++ (u ++ (trail ++ ',' :: (front ++ t ++ back ++ b.close :: rest))) by simp,
      dropWhile_blank_append hb, ((ho hx).append _).dropWhile, bare_series,
      hr hx ((Stops.comma _).blank_append ha), if_pos hd, andThen_ok, hcomma]
    simp only [if_neg hc.ne_comma, if_true, hbehind, List.cons_append, if_neg hclose, hread,
      andThen_error]

theorem bare_items_beside (rest : List Char) :
    bare (items b item (front ++ t ++ back ++ b.close :: rest)) = .error flaw := by
  obtain ⟨gap, next, hgap, hopen, hnext⟩ := h.exists_opens ho ht
  have hread := bare_series_beside ho hc hr h he ht hf rest
  have hbehind : (front ++ t ++ back ++ b.close :: rest).dropWhile isBlank =
      next ++ (back ++ b.close :: rest) := by
    rw [hnext, List.append_assoc, List.append_assoc, dropWhile_blank_append hgap,
      (hopen.append _).dropWhile]
  obtain ⟨c, more, rfl, -, h₁, h₂⟩ := hopen
  have hclose : c ≠ b.close := by
    rcases hc with hc | hc <;> rw [hc] <;> assumption
  rw [hbehind] at hread
  rw [bare_items, hbehind]
  exact (if_neg hclose).trans hread

end

end

/-- A flaw in the value of a member is found when the member is read. -/
theorem bare_member_refused {α : Type} {part : Reader α} {n b a t : List Char} {name : String}
    {flaw : Flaw} (hn : SpellsString n name) (hb : Blank b) (ha : Blank a)
    (hskip : ∀ {a text}, Blank a → bare (part (a ++ text)) = bare (part text))
    (hf : ∀ rest, Stops rest → bare (part (t ++ rest)) = .error flaw) (rest : List Char)
    (hr : Stops rest) : bare (member part (n ++ b ++ ':' :: (a ++ t) ++ rest)) = .error flaw := by
  obtain ⟨letters, rfl⟩ := hn.exists_cons
  have hcolon : (b ++ ':' :: (a ++ (t ++ rest))).dropWhile isBlank = ':' :: (a ++ (t ++ rest)) := by
    rw [dropWhile_blank_append hb]
    rfl
  rw [show '"' :: letters ++ b ++ ':' :: (a ++ t) ++ rest =
      '"' :: (letters ++ (b ++ ':' :: (a ++ (t ++ rest)))) by simp, bare_member_quote,
    bare_string_iff.mpr ⟨letters, hn, rfl⟩]
  simp only [andThen_ok, hcolon, if_true, hskip ha, hf rest hr, andThen_error]

/-! ## Places in values -/

/-- Every element of an array has its place. -/
theorem SpellsValue.exists_element {t : List Char} {d : Nat} {xs ys : List Value} {v : Value}
    (h : SpellsValue t d (.array (xs ++ v :: ys))) : ∃ f u k e c,
      Beside SpellsValue f k e xs ys ∧ SpellsValue u c v ∧ t = '[' :: (f ++ u ++ k) ++ [']'] := by
  generalize hvs : xs ++ v :: ys = vs at h
  cases h with
  | emptyArray hb => exact absurd (List.append_eq_nil_iff.mp hvs).2 (List.cons_ne_nil v ys)
  | array h =>
    obtain ⟨f, u, k, e, c, hbeside, hu, rfl⟩ := h.exists_beside hvs.symm
    exact ⟨f, u, k, e, c, hbeside, hu, rfl⟩

/-- Everything that a name stands for in an object has its place, behind which the name does not
occur. -/
theorem SpellsValue.exists_member {t : List Char} {d : Nat} {members : Table Value}
    {name : String} {v : Value} (h : SpellsValue t d (.object members))
    (hf : members.find? name = some v) :
    ∃ f n b a u k e c ms ns, Beside (SpellsMember SpellsValue) f k e ms ns ∧ SpellsString n name ∧
      Blank b ∧ Blank a ∧ SpellsValue u c v ∧
      t = '{' :: (f ++ (n ++ b ++ ':' :: (a ++ u)) ++ k) ++ ['}'] ∧
      members = Table.ofList (ms ++ (name, v) :: ns) ∧ ∀ m ∈ ns, m.1 ≠ name := by
  cases h with
  | emptyObject hb => cases hf
  | @object t d all _ h hs hl =>
    have htable : Table.ofList all = members := ofList_eq_of_lookup hs hl
    have hm : (name, v) ∈ Table.ofList all := by
      rw [htable]
      exact hs.find?_eq_some_iff.mp hf
    obtain ⟨ms, ns, rfl, hlast⟩ := Table.mem_ofList_iff.mp hm
    obtain ⟨f, u, k, e, c, hbeside, hu, rfl⟩ := h.exists_beside rfl
    obtain ⟨hn, hb, ha, hx⟩ := hu
    exact ⟨f, _, _, _, _, k, e, c, ms, ns, hbeside, hn, hb, ha, hx, rfl, htable.symm, hlast⟩

/-- What stands in front of a scalar in a value and behind it, how deep the containers around it
are, and what comes of the value for each value in the place of the scalar. -/
inductive Surrounds : List Char → List Char → Nat → (Value → Value) → Prop where
  | here : Surrounds [] [] 0 id
  | element {f k e xs ys front back d fill} (hb : Beside SpellsValue f k e xs ys)
    (h : Surrounds front back d fill) :
    Surrounds ('[' :: (f ++ front)) (back ++ (k ++ [']'])) (max e d + 1)
      fun v => .array (xs ++ fill v :: ys)
  | member {f k e ms ns n name b a front back d fill}
    (hs : Beside (SpellsMember SpellsValue) f k e ms ns) (hn : SpellsString n name) (hb : Blank b)
    (ha : Blank a) (h : Surrounds front back d fill) :
    Surrounds ('{' :: (f ++ (n ++ b ++ ':' :: (a ++ front)))) (back ++ (k ++ ['}'])) (max e d + 1)
      fun v => .object (Table.ofList (ms ++ (name, fill v) :: ns))

namespace Surrounds

variable {front back t : List Char} {d : Nat} {fill : Value → Value}

/-- A scalar in its place spells what comes of it. -/
theorem spells (h : Surrounds front back d fill) {v : Value} (ht : SpellsValue t 0 v) :
    SpellsValue (front ++ t ++ back) d (fill v) := by
  induction h with
  | here =>
    rw [List.nil_append, List.append_nil]
    exact ht
  | @element f k e xs ys front back d fill hb h ih =>
    have hlisted := hb.listed ih
    rw [show '[' :: (f ++ front) ++ t ++ (back ++ (k ++ [']'])) =
      '[' :: (f ++ (front ++ t ++ back) ++ k) ++ [']'] by simp]
    exact .array hlisted
  | @member f k e ms ns n name b a front back d fill hs hn hb ha h ih =>
    have hlisted := hs.listed (.mk hn hb ha ih)
    rw [show '{' :: (f ++ (n ++ b ++ ':' :: (a ++ front))) ++ t ++ (back ++ (k ++ ['}'])) =
      '{' :: (f ++ (n ++ b ++ ':' :: (a ++ (front ++ t ++ back))) ++ k) ++ ['}'] by simp]
    exact .object hlisted (Table.sorted_ofList _) (Table.find?_ofList _)

theorem opens (h : Surrounds front back d fill) (ht : Opens t) : Opens (front ++ t ++ back) := by
  cases h with
  | here => exact ht.append []
  | element hb h => exact ⟨'[', _, rfl, by decide⟩
  | member hs hn hb ha h => exact ⟨'{', _, rfl, by decide⟩

/-- What becomes an object whatever is put in its place begins like one. -/
theorem exists_cons_of_object {ms : Value → List (String × Value)}
    (h : Surrounds front back d fun v => .object (ms v)) : ∃ inner, front = '{' :: inner := by
  generalize hfill : (fun v => Value.object (ms v)) = fill at h
  cases h with
  | here => cases congrFun hfill .null
  | element hb h => cases congrFun hfill .null
  | member hs hn hb ha h => exact ⟨_, rfl⟩

/-- A flaw in what stands in the place of a scalar is found when the value is read. -/
theorem refused (h : Surrounds front back d fill) {flaw : Flaw} (ht : Opens t)
    (hf : ∀ m rest, Stops rest → bare (valueWithin m (t ++ rest)) = .error flaw) {n : Nat}
    (hd : d ≤ n) (rest : List Char) (hr : Stops rest) :
    bare (valueWithin n (front ++ t ++ back ++ rest)) = .error flaw := by
  induction h generalizing n rest with
  | here =>
    rw [List.nil_append, List.append_nil]
    exact hf n rest hr
  | @element f k e xs ys front back d fill hb h ih =>
    obtain ⟨m, rfl⟩ := Nat.exists_eq_succ_of_ne_zero (Nat.ne_zero_of_lt hd)
    obtain ⟨he, hd⟩ := Nat.max_le.mp (Nat.le_of_succ_le_succ hd)
    have hitems : bare (items .array (valueWithin m)
        (f ++ (front ++ t ++ back) ++ k ++ ']' :: rest)) = .error flaw :=
      bare_items_beside SpellsValue.opens (.inl rfl) (readsWithin_valueWithin m) hb he (h.opens ht)
        (ih hd) rest
    rw [show '[' :: (f ++ front) ++ t ++ (back ++ (k ++ [']'])) ++ rest =
      '[' :: (f ++ (front ++ t ++ back) ++ k ++ ']' :: rest) by simp, valueWithin, bare_valueOf]
    show andThen (bare (items .array (valueWithin m) _)) _ = _
    rw [hitems, andThen_error]
  | @member f k e ms ns n name b a front back d fill hs hn hb ha h ih =>
    obtain ⟨m, rfl⟩ := Nat.exists_eq_succ_of_ne_zero (Nat.ne_zero_of_lt hd)
    obtain ⟨he, hd⟩ := Nat.max_le.mp (Nat.le_of_succ_le_succ hd)
    have hopen : Opens (n ++ b ++ ':' :: (a ++ (front ++ t ++ back))) := by
      obtain ⟨letters, rfl⟩ := hn.exists_cons
      exact ⟨'"', _, rfl, by decide⟩
    have hitems : bare (items .object (Json.member (valueWithin m))
        (f ++ (n ++ b ++ ':' :: (a ++ (front ++ t ++ back))) ++ k ++ '}' :: rest)) = .error flaw :=
      bare_items_beside SpellsMember.opens (.inr rfl)
        (ReadsWithin.member (readsWithin_valueWithin m) valueWithin_blank_append) hs he hopen
        (bare_member_refused hn hb ha valueWithin_blank_append (ih hd)) rest
    rw [show '{' :: (f ++ (n ++ b ++ ':' :: (a ++ front))) ++ t ++ (back ++ (k ++ ['}'])) ++ rest =
      '{' :: (f ++ (n ++ b ++ ':' :: (a ++ (front ++ t ++ back))) ++ k ++ '}' :: rest) by simp,
      valueWithin, bare_valueOf]
    show andThen (bare (objectOf (valueWithin m) _)) _ = _
    rw [bare_objectOf, hitems, andThen_error, andThen_error]

end Surrounds

/-! ## Places in documents -/

/-- What stands in front of a scalar in a document and behind it, how deep the containers around it
are, and which members come of each value in the place of the scalar. -/
def SurroundsDocument (front back : List Char) (d : Nat) (members : Value → Table Value) : Prop :=
  ∃ lead f k trail, Blank lead ∧ Surrounds f k d (fun v => .object (members v)) ∧ Blank trail ∧
    front = lead ++ f ∧ back = k ++ trail

namespace SurroundsDocument

variable {front back t : List Char} {d : Nat} {members : Value → Table Value}

theorem spells (h : SurroundsDocument front back d members) {v : Value} (hv : SpellsValue t 0 v) :
    ∃ lead u trail, Blank lead ∧ SpellsValue u d (.object (members v)) ∧ Blank trail ∧
      front ++ t ++ back = lead ++ u ++ trail := by
  obtain ⟨lead, f, k, trail, hlead, hs, htrail, rfl, rfl⟩ := h
  exact ⟨lead, f ++ t ++ k, trail, hlead, hs.spells hv, htrail, by simp only [List.append_assoc]⟩

/-- Unless containers stand too deep in one another, a scalar in its place makes a document. -/
theorem document (h : SurroundsDocument front back d members) (hd : d ≤ 127) {v : Value}
    (hv : SpellsValue t 0 v) : SpellsDocument (front ++ t ++ back) (members v) := by
  obtain ⟨lead, u, trail, hlead, hu, htrail, heq⟩ := h.spells hv
  exact ⟨lead, u, trail, d, hlead, hu, hd, htrail, heq⟩

/-- A number out of range in the place of the scalar is what is wrong with the text. -/
theorem out_of_range (h : SurroundsDocument front back d members) (hd : d ≤ 127) {l : Literal}
    (ht : SpellsLiteral t l) (hv : l.value? = none) {text : String}
    (htext : text.toList = front ++ t ++ back) :
    ∃ e, readObject text = .error e ∧ e.flaw = .numberOutOfRange := by
  obtain ⟨lead, f, k, trail, hlead, hs, htrail, rfl, rfl⟩ := h
  have hopens : Opens t := by
    obtain ⟨c, rest, rfl, -, hblank, -, -, hclose⟩ := ht.exists_opening
    exact ⟨c, rest, rfl, hblank, hclose⟩
  have hread (m : Nat) (rest : List Char) (hr : Stops rest) :
      bare (valueWithin m (t ++ rest)) = .error .numberOutOfRange := by
    cases m <;> exact bare_valueOf_out_of_range _ ht hv hr
  have hstops : Stops trail := by
    rw [← List.append_nil trail]
    exact Stops.nil.blank_append htrail
  have hwhole := hs.refused hopens hread hd trail hstops
  obtain ⟨inner, rfl⟩ := hs.exists_cons_of_object
  refine readObject_of_error hlead hwhole ?_
  rw [htext]
  simp only [List.append_assoc, List.cons_append, List.append_eq]

end SurroundsDocument

end SessionInventory.Json
