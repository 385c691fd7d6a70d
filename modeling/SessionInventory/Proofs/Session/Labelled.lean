import SessionInventory.Proofs.Inventory.RoundTrip
import SessionInventory.Proofs.Session.Parts

/-!
# Another label

An entry is an object or an array of nine parts, and a label of its session stands in it as a member
or as a part (`Labelled`). What is wrong with an entry does not come of its labels
(`Labelled.ofValue_error_iff`), and another value in the place of a label changes that label of the
session and nothing else (`Labelled.ofValue_ok`).
-/

namespace SessionInventory

open Json (Value Mismatch)

/-- A session with another label under a name. -/
def Session.relabel (s : Session) (name : String) (v : Value) : Session :=
  { s with labels := s.labels.put name (some v) }

/-- What an entry is around the value that it gives under a name: an object with such a member, the
last one of that name, or an array with such a part. -/
inductive Labelled (name : String) : (Value → Value) → Prop where
  | member {earlier later : List (String × Value)} (hlast : ∀ m ∈ later, m.1 ≠ name) :
    Labelled name fun v => .object (Table.ofList (earlier ++ (name, v) :: later))
  | part {before after : List Value} (hname : Session.partNames[before.length]? = some name)
    (hlength : before.length + after.length = 8) : Labelled name fun v => .array (before ++ v :: after)

namespace Labelled

variable {name : String} {fill : Value → Value} {v w : Value}

/-- A part is a member of the object that has the parts under their names. -/
theorem exists_named {before after : List Value}
    (hname : Session.partNames[before.length]? = some name)
    (hlength : before.length + after.length = 8) : ∃ earlier later,
      (∀ m ∈ later, m.1 ≠ name) ∧ ∀ v, Session.ofValue (.array (before ++ v :: after)) =
        Session.ofValue (.object (Table.ofList (earlier ++ (name, v) :: later))) := by
  obtain ⟨front, back, hnames, hfront⟩ : ∃ front back,
      Session.partNames = front ++ name :: back ∧ front.length = before.length := by
    obtain ⟨hlt, hget⟩ := List.getElem?_eq_some_iff.mp hname
    refine ⟨Session.partNames.take before.length, Session.partNames.drop (before.length + 1), ?_,
      List.length_take_of_le (Nat.le_of_lt hlt)⟩
    rw [← hget, List.getElem_cons_drop, List.take_append_drop]
  have hnodup := Session.nodup_partNames
  rw [hnames, List.nodup_append, List.nodup_cons] at hnodup
  obtain ⟨-, ⟨hback, -⟩, -⟩ := hnodup
  refine ⟨front.zip before, back.zip after, fun m hm heq => hback ?_, fun v => ?_⟩
  · rw [← heq]
    exact (List.of_mem_zip hm).1
  · have hparts : (before ++ v :: after).length = 9 := by
      rw [List.length_append, List.length_cons]
      omega
    have hnamed : Session.named (before ++ v :: after) =
        front.zip before ++ (name, v) :: back.zip after := by
      rw [Session.named, hnames, List.zip_append hfront, List.zip_cons_cons]
    rw [← hnamed]
    exact (Session.ofParts_eq_ofMembers hparts).trans (Session.ofMembers_ofList_named hparts).symm

/-- Every label stands in its entry as a member. -/
theorem exists_member (h : Labelled name fill) : ∃ earlier later,
    (∀ m ∈ later, m.1 ≠ name) ∧ ∀ v, Session.ofValue (fill v) =
      Session.ofMembers (Table.ofList (earlier ++ (name, v) :: later)) := by
  cases h with
  | member hlast => exact ⟨_, _, hlast, fun v => rfl⟩
  | part hname hlength => exact exists_named hname hlength

theorem ne_host (h : name ∈ Labels.names.toList) : "ssh_host" ≠ name := by
  rintro rfl
  revert h
  decide

theorem ne_port (h : name ∈ Labels.names.toList) : "ssh_port" ≠ name := by
  rintro rfl
  revert h
  decide

/-- What is wrong with an entry does not come of its labels. -/
theorem ofValue_error_iff (h : Labelled name fill) (hn : name ∈ Labels.names.toList) {m : Mismatch} :
    Session.ofValue (fill v) = .error m ↔ Session.ofValue (fill w) = .error m := by
  obtain ⟨earlier, later, -, hfill⟩ := h.exists_member
  rw [hfill, hfill]
  exact Session.ofMembers_error_congr (Table.find?_ofList_of_ne (ne_host hn) _ _ _ _)
    (Table.find?_ofList_of_ne (ne_port hn) _ _ _ _)

/-- Another value in the place of a label, unless it is `null`, is that label of the session. -/
theorem ofValue_ok (h : Labelled name fill) (hn : name ∈ Labels.names.toList) {s : Session}
    (hs : Session.ofValue (fill v) = .ok s) (hw : w.isNull = false) :
    Session.ofValue (fill w) = .ok (s.relabel name w) := by
  obtain ⟨earlier, later, hlast, hfill⟩ := h.exists_member
  rw [hfill] at hs ⊢
  obtain ⟨hhost, hport, hlabels⟩ := Session.ofMembers_ok_iff.mp hs
  have hvalue : decodeLabel (some w) = some w := by
    rw [decodeLabel_eq_filter, Option.filter_some, hw]
    rfl
  have hlabel (other : String) :
      decodeLabel ((Table.ofList (earlier ++ (name, w) :: later)).find? other) =
        if name = other then some w else
          decodeLabel ((Table.ofList (earlier ++ (name, v) :: later)).find? other) := by
    split
    · rename_i heq
      rw [← heq, Table.find?_ofList_of_later hlast, hvalue]
    · rename_i hne
      rw [Table.find?_ofList_of_ne (Ne.symm hne)]
  refine Session.ofMembers_ok_iff.mpr ⟨?_, ?_, ?_⟩
  · rw [Table.find?_ofList_of_ne (ne_host hn) earlier later w v]
    exact hhost
  · rw [Table.find?_ofList_of_ne (ne_port hn) earlier later w v]
    exact hport
  · simp only [Session.relabel, hlabels, Session.labelsOf, Labels.map, Labels.put, hlabel]

end Labelled

end SessionInventory
