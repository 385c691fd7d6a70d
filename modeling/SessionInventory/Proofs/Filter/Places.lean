import Mathlib.Data.List.Basic
import Mathlib.Data.List.DropRight
import SessionInventory.Filter

/-!
# Places in a directive

The marks of a directive are looked for in what is left of it without the white space around it, and
the places found are used in the whole. Where they are places in the whole too, the directive is
`Directive.Aligned`, and no mark of it is misplaced (`Directive.read_ne_misplaced`). It is aligned
if it does not begin with white space, or if all its characters are ASCII; so a misplaced mark needs
both white space in front and a character of more than one byte (`Filter.exists_of_misplaced`).
-/

namespace SessionInventory

namespace Utf8

theorem byteCount_append (a b : List Char) : byteCount (a ++ b) = byteCount a + byteCount b := by
  induction a with
  | nil => rw [List.nil_append, byteCount_nil, Nat.zero_add]
  | cons c a ih => rw [List.cons_append, byteCount_cons, byteCount_cons, ih, Nat.add_assoc]

theorem byteCount_ascii {text : List Char} (h : ∀ c ∈ text, c.toNat < 0x80) :
    byteCount text = text.length := by
  induction text with
  | nil => rfl
  | cons c rest ih =>
    obtain ⟨hc, hrest⟩ := List.forall_mem_cons.mp h
    have hsize : c.utf8Size = 1 := Char.utf8Size_eq_one_iff.mpr (Nat.le_of_lt_succ hc)
    rw [byteCount_cons, ih hrest, hsize, List.length_cons, Nat.add_comm]

/-- A number of bytes behind which a text can be parted. -/
def IsPlace (text : List Char) (n : Nat) : Prop :=
  ∃ front back, text = front ++ back ∧ byteCount front = n

/-- From a place on, a text can be parted as far behind it as any later place is. -/
theorem IsPlace.exists_splitBytes? {text : List Char} {first last : Nat} (hf : IsPlace text first)
    (hl : IsPlace text last) (hle : first ≤ last) :
    ∃ front middle back, splitBytes? first text = some (front, middle ++ back) ∧
      splitBytes? (last - first) (middle ++ back) = some (middle, back) := by
  obtain ⟨front, rest, rfl, rfl⟩ := hf
  obtain ⟨front', rest', heq, rfl⟩ := hl
  obtain ⟨middle, rfl, rfl⟩ | ⟨middle, rfl, rfl⟩ := List.append_eq_append_iff.mp heq
  · refine ⟨front, middle, rest', splitBytes?_append front _, ?_⟩
    rw [byteCount_append, Nat.add_sub_cancel_left]
    exact splitBytes?_append middle rest'
  · -- The later place is not in front of the first, so there is nothing between them.
    have hnone : byteCount front' - byteCount (front' ++ middle) = 0 := Nat.sub_eq_zero_of_le
      (byteCount_append front' middle ▸ Nat.le_add_right _ _)
    refine ⟨front' ++ middle, [], rest, splitBytes?_append _ rest, ?_⟩
    rw [hnone]
    exact splitBytes?_append [] rest

end Utf8

theorem Blank.exists_trim (text : List Char) :
    ∃ tail, text = text.takeWhile isBlank ++ (trim text ++ tail) := by
  obtain ⟨tail, htail⟩ := List.rdropWhile_prefix isBlank (l := text.dropWhile isBlank)
  refine ⟨tail, ?_⟩
  have hparts : text.takeWhile isBlank ++ text.dropWhile isBlank = text :=
    List.takeWhile_append_dropWhile
  rw [← htail] at hparts
  exact hparts.symm

namespace Directive

open Utf8 (IsPlace byteCount)

/-- The places that a directive has without the white space around it are places in the whole. -/
def Aligned (whole : List Char) : Prop :=
  ∀ front back, Blank.trim whole = front ++ back → IsPlace whole (byteCount front)

/-- In front of a directive that does not begin with white space nothing is left out. -/
theorem aligned_of_head {whole : List Char} (h : ∀ c ∈ whole.head?, Blank.isBlank c = false) :
    Aligned whole := by
  intro front back htrim
  have hlead : whole.takeWhile Blank.isBlank = [] := by
    cases whole with
    | nil => rfl
    | cons c rest => rw [List.takeWhile_cons, h c rfl, if_neg Bool.false_ne_true]
  obtain ⟨tail, hwhole⟩ := Blank.exists_trim whole
  rw [hlead, htrim, List.nil_append, List.append_assoc] at hwhole
  exact ⟨front, back ++ tail, hwhole, rfl⟩

/-- In ASCII each number of bytes is a place. -/
theorem aligned_of_ascii {whole : List Char} (h : ∀ c ∈ whole, c.toNat < 0x80) : Aligned whole := by
  intro front back htrim
  obtain ⟨tail, hwhole⟩ := Blank.exists_trim whole
  rw [htrim] at hwhole
  have hmem : ∀ c ∈ front, c ∈ whole := fun c hc => by
    rw [hwhole]
    simp only [List.mem_append, hc, true_or, or_true]
  have hle : front.length ≤ whole.length := by
    rw [hwhole]
    simp only [List.length_append]
    omega
  refine ⟨whole.take front.length, whole.drop front.length, (List.take_append_drop _ _).symm, ?_⟩
  have htake : byteCount (whole.take front.length) = (whole.take front.length).length :=
    Utf8.byteCount_ascii fun c hc => h c (List.mem_of_mem_take hc)
  have hfront : byteCount front = front.length :=
    Utf8.byteCount_ascii fun c hc => h c (hmem c hc)
  rw [htake, hfront, List.length_take, Nat.min_eq_left hle]

/-! ## What remains behind a place -/

/-- What is left of a directive behind a place, without the white space around it. -/
def Remains (whole : List Char) (place : Nat) (text : List Char) : Prop :=
  ∃ front, Blank.trim whole = front ++ text ∧ byteCount front = place

variable {whole text a b : List Char} {place : Nat}

theorem Remains.append (h : Remains whole place (a ++ b)) :
    Remains whole (place + byteCount a) b := by
  obtain ⟨front, htrim, rfl⟩ := h
  exact ⟨front ++ a, by rw [htrim, List.append_assoc], Utf8.byteCount_append front a⟩

/-- A mark takes one byte. -/
theorem Remains.mark {c : Char} (h : Remains whole place (c :: b)) (hc : c.utf8Size = 1) :
    Remains whole (place + 1) b := by
  have hbehind := h.append (a := [c])
  rwa [Utf8.byteCount_cons, hc] at hbehind

/-- Behind all that comes before a character of a kind, that character comes. -/
theorem Remains.dropWhile (h : Remains whole place text) (p : Char → Bool) :
    Remains whole (place + byteCount (text.takeWhile p)) (text.dropWhile p) := by
  rw [← List.takeWhile_append_dropWhile (p := p) (l := text)] at h
  exact h.append

/-- What ends a search for either of two marks is one of them. -/
theorem eq_or_eq_of_dropWhile {x y c : Char}
    (h : text.dropWhile (fun c => !(c = x || c = y)) = c :: b) : c = x ∨ c = y := by
  have hc := List.head?_dropWhile_not (fun c => !(c = x || c = y)) text
  rw [h] at hc
  simpa only [List.head?_cons, Bool.not_eq_false', Bool.or_eq_true, decide_eq_true_eq] using hc

theorem eq_of_dropWhile {x c : Char} (h : text.dropWhile (· ≠ x) = c :: b) : c = x := by
  have hc := List.head?_dropWhile_not (· ≠ x) text
  rw [h] at hc
  exact not_not.mp (of_decide_eq_false hc)

/-! ## No mark is misplaced -/

section Flaws

variable {α β : Type}

theorem ok_ne_misplaced (v : α) : (.ok v : Except Flaw α) ≠ .error .misplaced :=
  nofun

theorem malformed_ne_misplaced : (.error .malformed : Except Flaw α) ≠ .error .misplaced :=
  nofun

theorem bind_ne_misplaced {read : Except Flaw α} {next : α → Except Flaw β}
    (hr : read ≠ .error .misplaced) (hn : ∀ v, next v ≠ .error .misplaced) :
    read >>= next ≠ .error .misplaced := by
  cases read with
  | ok v => exact hn v
  | error flaw =>
    intro h
    obtain rfl : flaw = .misplaced := Except.error.inj h
    exact hr rfl

end Flaws

variable (ha : Aligned whole)
include ha

theorem Remains.isPlace (h : Remains whole place text) : IsPlace whole place := by
  obtain ⟨front, htrim, rfl⟩ := h
  exact ha front text htrim

theorem Remains.part_ne_misplaced {last : Nat} (h : Remains whole place text)
    (hl : Remains whole last b) (hle : place ≤ last) :
    part whole place last ≠ .error .misplaced := by
  obtain ⟨front, middle, back, hfirst, hlast⟩ :=
    (h.isPlace ha).exists_splitBytes? (hl.isPlace ha) hle
  have hpart : part whole place last = .ok middle := by
    simp only [part, hfirst, Option.bind_some, hlast]
  rw [hpart]
  exact ok_ne_misplaced middle

theorem readLevel_ne_misplaced (h : Remains whole place text) :
    readLevel whole place ≠ .error .misplaced := by
  obtain ⟨front, back, rfl, rfl⟩ := h.isPlace ha
  have hrest : partFrom (front ++ back) (byteCount front) = .ok back := by
    simp only [partFrom, Utf8.splitBytes?_append]
  rw [readLevel, hrest]
  cases back with
  | nil => exact ok_ne_misplaced _
  | cons c word =>
    show (level? (c :: word)).elim (Except.error Flaw.malformed) .ok ≠ _
    cases level? (c :: word) with
    | none => exact malformed_ne_misplaced
    | some level => exact ok_ne_misplaced level

theorem readEnd_ne_misplaced (h : Remains whole place text) :
    readEnd whole place text ≠ .error .misplaced := by
  unfold readEnd
  split
  · exact ok_ne_misplaced _
  · exact readLevel_ne_misplaced ha (h.mark rfl)
  · exact malformed_ne_misplaced

theorem readField_ne_misplaced (h : Remains whole place text) :
    readField whole place text ≠ .error .misplaced := by
  have hclose := h.dropWhile (· ≠ '\x7d')
  have hpart := h.part_ne_misplaced ha hclose (Nat.le_add_right _ _)
  unfold readField
  dsimp only
  split
  · exact malformed_ne_misplaced
  · rename_i c rest hdrop
    obtain rfl := eq_of_dropWhile hdrop
    have hbehind := (hdrop ▸ hclose).mark rfl
    refine bind_ne_misplaced hpart fun written => ?_
    split
    · have hlevel := readEnd_ne_misplaced ha (hbehind.mark rfl)
      exact bind_ne_misplaced hlevel fun level => ok_ne_misplaced _
    · exact malformed_ne_misplaced

theorem readSpan_ne_misplaced (target : List Char) (h : Remains whole place text) :
    readSpan target whole place text ≠ .error .misplaced := by
  have hend := h.dropWhile fun c => !(c = ']' || c = '\x7b')
  have hpart := h.part_ne_misplaced ha hend (Nat.le_add_right _ _)
  unfold readSpan
  dsimp only
  split
  · exact malformed_ne_misplaced
  · rename_i rest hdrop
    refine bind_ne_misplaced hpart fun span => ?_
    have hlevel := readEnd_ne_misplaced ha ((hdrop ▸ hend).mark rfl)
    exact bind_ne_misplaced hlevel fun level => ok_ne_misplaced _
  · rename_i c rest hbracket hdrop
    obtain rfl : c = '\x7b' := (eq_or_eq_of_dropWhile hdrop).resolve_left hbracket
    refine bind_ne_misplaced hpart fun span => ?_
    have hfield := readField_ne_misplaced ha ((hdrop ▸ hend).mark rfl)
    exact bind_ne_misplaced hfield fun read => ok_ne_misplaced _

/-- No mark of an aligned directive is misplaced. -/
theorem read_ne_misplaced : read whole ≠ .error .misplaced := by
  have hstart : Remains whole 0 (Blank.trim whole) := ⟨[], rfl, rfl⟩
  unfold read
  split
  · exact malformed_ne_misplaced
  · rename_i rest htrim
    exact readSpan_ne_misplaced ha [] ((htrim ▸ hstart).mark rfl)
  · rename_i c rest hbracket htrim
    rw [htrim] at hstart
    have hend := hstart.dropWhile fun c => !(c = '=' || c = '[')
    have hpart := hstart.part_ne_misplaced ha hend (Nat.zero_le _)
    rw [Nat.zero_add] at hend hpart
    dsimp only
    split
    · exact malformed_ne_misplaced
    · split
      · exact ok_ne_misplaced _
      · rename_i rest hdrop
        refine bind_ne_misplaced hpart fun target => ?_
        exact readSpan_ne_misplaced ha target ((hdrop ▸ hend).mark rfl)
      · rename_i hne hbracket
        obtain ⟨mark, rest, hdrop⟩ := List.exists_cons_of_ne_nil hne
        obtain rfl : mark = '=' := (eq_or_eq_of_dropWhile hdrop).resolve_right
          fun h => hbracket rest (h ▸ hdrop)
        refine bind_ne_misplaced hpart fun target => ?_
        have hlevel := readLevel_ne_misplaced ha ((hdrop ▸ hend).mark rfl)
        exact bind_ne_misplaced hlevel fun level => ok_ne_misplaced _

end Directive

namespace Filter

/-- Reading the directives of a filter fails with the flaw of one of them. -/
theorem exists_of_mapM_error {directives : List (List Char)} {flaw : Directive.Flaw}
    (h : directives.mapM Directive.read = .error flaw) :
    ∃ directive ∈ directives, Directive.read directive = .error flaw := by
  induction directives with
  | nil => cases h
  | cons directive rest ih =>
    rw [List.mapM_cons] at h
    cases hd : Directive.read directive with
    | error other =>
      rw [hd] at h
      obtain rfl : other = flaw := Except.error.inj h
      exact ⟨directive, List.mem_cons_self, hd⟩
    | ok read =>
      rw [hd] at h
      cases hr : rest.mapM Directive.read with
      | error other =>
        rw [hr] at h
        obtain rfl : other = flaw := Except.error.inj h
        obtain ⟨directive, hmem, hflaw⟩ := ih hr
        exact ⟨directive, List.mem_cons_of_mem _ hmem, hflaw⟩
      | ok others =>
        rw [hr] at h
        cases h

/-- If a mark is misplaced, it is in a directive that begins with white space and in which there is
a character that is not ASCII. -/
theorem exists_of_misplaced {text : String} (h : read text = .error .misplaced) :
    ∃ directive ∈ text.toList.splitOn ',',
      (∃ c ∈ directive.head?, Blank.isBlank c = true) ∧ ∃ c ∈ directive, 0x80 ≤ c.toNat := by
  obtain ⟨directive, hmem, hflaw⟩ := exists_of_mapM_error h
  refine ⟨directive, (List.mem_filter.mp hmem).1, ?_, ?_⟩
  · by_contra hno
    refine Directive.read_ne_misplaced (Directive.aligned_of_head fun c hc => ?_) hflaw
    exact Bool.eq_false_iff.mpr fun hblank => hno ⟨c, hc, hblank⟩
  · by_contra hno
    refine Directive.read_ne_misplaced (Directive.aligned_of_ascii fun c hc => ?_) hflaw
    exact Nat.lt_of_not_le fun hle => hno ⟨c, hc, hle⟩

/-- What a variable gives is a text that is not blank, and a mark in it is misplaced. -/
def Misplaces (directives : Option (List UInt8)) : Prop :=
  ∃ text, directives.bind Utf8.decode? = some text ∧ Blank.trim text.toList ≠ [] ∧
    read text = .error .misplaced

/-- Only a misplaced mark leaves a run without a filter. -/
theorem ofRun?_eq_none_iff {verbose : Bool} {directives : Option (List UInt8)} :
    ofRun? verbose directives = none ↔ Misplaces directives := by
  unfold ofRun? Misplaces
  cases directives.bind Utf8.decode? with
  | none => exact iff_of_false nofun nofun
  | some text =>
    dsimp only
    constructor
    · intro h
      split at h
      · cases h
      · rename_i hblank
        split at h
        · cases h
        · cases h
        · exact ⟨text, rfl, hblank, ‹_›⟩
    · rintro ⟨text', heq, hblank, hread⟩
      obtain rfl := Option.some.inj heq
      rw [if_neg hblank, hread]

end Filter

end SessionInventory
