import SessionInventory.Address.Path

/-!
# Where paths lead

Segments that are read behind others are put behind whatever the others have come to
(`resolve_append`). So a path whose segments stand for themselves ends every path that it is
appended to, whatever `.`, `..`, backslashes and encoded characters stand in front of it
(`exists_write_append`).
-/

namespace SessionInventory.Address

/-! ## Percent-encoding -/

theorem encodeUnless_append (admitted : Char → Bool) (a b : List Char) :
    encodeUnless admitted (a ++ b) = encodeUnless admitted a ++ encodeUnless admitted b :=
  List.flatMap_append

namespace Path

variable {form : Form}

/-! ## Segments behind others -/

theorem write_append (front back : List (List Char)) :
    write (front ++ back) = write front ++ write back :=
  List.flatMap_append

/-- Segments are read on behind what those before them have come to. -/
theorem resolve_append (form : Form) (before front : List (List Char)) {back : List (List Char)}
    (hb : back ≠ []) : ∃ reached, resolve form before (front ++ back) = resolve form reached back := by
  induction front generalizing before with
  | nil => exact ⟨before, rfl⟩
  | cons segment rest ih =>
    have hmore : ¬rest ++ back = [] := fun h => hb (List.append_eq_nil_iff.mp h).2
    rw [List.cons_append, resolve]
    simp only [if_neg hmore]
    split
    · exact ih _
    · split <;> exact ih _

/-- Whether a segment is put behind others as it is. -/
def IsPlain (segment : List Char) : Prop :=
  isAbove segment = false ∧ isHere segment = false

/-- Plain segments are put behind those before them. Only the path of a file could change the first
one. -/
theorem resolve_plain (hform : form ≠ .file) {segments : List (List Char)}
    (h : ∀ segment ∈ segments, IsPlain segment) (before : List (List Char)) :
    resolve form before segments = before.reverse ++ segments := by
  induction segments generalizing before with
  | nil => rw [resolve, List.append_nil]
  | cons segment rest ih =>
    obtain ⟨⟨habove, hhere⟩, hrest⟩ := List.forall_mem_cons.mp h
    have hentered : entered form before segment = segment := if_neg fun hd => hform hd.1
    rw [resolve, habove, hhere, hentered]
    simp only [Bool.false_eq_true, if_false, ih hrest, List.reverse_cons, List.append_assoc,
      List.singleton_append]

/-- The segments of a text, each as it is written. -/
def pieces (form : Form) (text : List Char) : List (List Char) :=
  (encodeUnless inPath text).splitOnP form.isSlash

theorem isSlash_slash (form : Form) : form.isSlash '/' = true := rfl

theorem pieces_ne_nil (form : Form) (text : List Char) : pieces form text ≠ [] :=
  List.splitOnP_ne_nil form.isSlash (encodeUnless inPath text)

theorem segments_eq_resolve (form : Form) (text : List Char) :
    segments form text = resolve form [] (pieces form text) := rfl

theorem pieces_append (form : Form) (front back : List Char) :
    pieces form (front ++ '/' :: back) = pieces form front ++ pieces form back := by
  have hencoded : encodeUnless inPath (front ++ '/' :: back) =
      encodeUnless inPath front ++ '/' :: encodeUnless inPath back := by
    rw [encodeUnless_append]
    rfl
  rw [pieces, hencoded, List.splitOnP_append_cons _ _ (isSlash_slash form)]
  rfl

/-- Behind a host, a path of plain segments ends the path that it is appended to. -/
theorem exists_write_append (hform : form ≠ .file) {front back : List Char}
    (hfront : front = [] ∨ front.head? = some '/') (hplain : ∀ s ∈ pieces form back, IsPlain s) :
    ∃ reached, write (segmentsBehindHost form (front ++ '/' :: back)) =
      reached ++ write (pieces form back) := by
  rcases hfront with rfl | hfront
  · refine ⟨[], ?_⟩
    rw [List.nil_append, segmentsBehindHost, if_pos (isSlash_slash form), segments_eq_resolve,
      resolve_plain hform hplain]
    rfl
  · obtain ⟨rest, rfl⟩ := List.head?_eq_some_iff.mp hfront
    obtain ⟨reached, hreached⟩ := resolve_append form [] (pieces form rest)
      (pieces_ne_nil form back)
    refine ⟨write reached.reverse, ?_⟩
    rw [List.cons_append, segmentsBehindHost, if_pos (isSlash_slash form), segments_eq_resolve,
      pieces_append, hreached, resolve_plain hform hplain, write_append]

end Path

end SessionInventory.Address
