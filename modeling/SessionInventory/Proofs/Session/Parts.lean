import SessionInventory.Proofs.Session.Members

/-!
# The session of an array

An array of nine parts describes what the object describes in which they are members
(`Session.ofParts_eq_ofMembers`), although its parts go by their places and the members of the
object by their names, in another order. What is wrong with an array of another length is its
length, unless something is wrong with its host or its port (`Session.ofValue_array`).
-/

namespace SessionInventory.Session

open Json (Value Mismatch Expected)

variable {parts : List Value}

/-- The parts under their names. -/
def named (parts : List Value) : List (String × Value) := partNames.zip parts

theorem names_named (h : parts.length = 9) : (named parts).map (·.1) = partNames :=
  List.map_fst_zip (by simp [partNames, h])

theorem nodup_partNames : partNames.Nodup := by decide

theorem nodup_named (h : parts.length = 9) : ((named parts).map (·.1)).Nodup := by
  rw [names_named h]
  exact nodup_partNames

theorem inTurn_named (h : parts.length = 9) : InTurn (named parts) := by
  rw [InTurn, names_named h]
  decide

/-- Nine parts describe what the members describe that they are under their names. -/
theorem ofParts_eq_ofMembers (h : parts.length = 9) : ofParts parts = ofMembers (named parts) := by
  match parts, h with
  | [_, _, _, _, _, _, _, _, _], _ =>
    -- every name is looked up to the part at its place
    rfl

theorem ofMembers_ofList_named (h : parts.length = 9) :
    ofMembers (Table.ofList (named parts)) = ofMembers (named parts) :=
  ofMembers_congr fun name _ => Table.find?_ofList_of_nodup (nodup_named h) name

/-- Parts of another length describe nothing. -/
theorem ofParts_eq_withEndpoint (h : parts.length ≠ 9) : ofParts parts =
    withEndpoint parts[0]? parts[1]? fun _ _ =>
      .error (.length parts.length (if parts.length < 9 then .sessionParts else .noMoreParts)) := by
  rw [ofParts, withEndpoint]
  cases decodeHost parts[0]? with
  | error m => rfl
  | ok host =>
    cases decodePort parts[1]? with
    | error m => rfl
    | ok port =>
      simp only
      split
      · exact absurd rfl h
      · rfl

/-- With a host and a port, or without them, the length is wrong. -/
theorem ofParts_of_length_ne (h : parts.length ≠ 9) (hh : ∀ v ∈ parts[0]?, IsHost v)
    (hp : ∀ v ∈ parts[1]?, IsPort v) : ofParts parts =
      .error (.length parts.length (if parts.length < 9 then .sessionParts else .noMoreParts)) := by
  obtain ⟨host, port, heq⟩ := exists_withEndpoint_eq (fun _ _ => .error
    (.length parts.length (if parts.length < 9 then .sessionParts else .noMoreParts))) hh hp
  exact (ofParts_eq_withEndpoint h).trans heq

theorem message_length (n : Nat) :
    (Mismatch.length n (if n < 9 then .sessionParts else .noMoreParts)).message =
      "invalid length " ++ toString n ++ ", expected " ++
        if n < 9 then "struct Session with 9 elements" else "fewer elements in array" := by
  have hexpected : (if n < 9 then Expected.sessionParts else .noMoreParts).description =
      if n < 9 then "struct Session with 9 elements" else "fewer elements in array" :=
    apply_ite Expected.description (n < 9) .sessionParts .noMoreParts
  exact congrArg (fun expected => "invalid length " ++ toString n ++ ", expected " ++ expected)
    hexpected

/-- An array of nine parts describes what the object describes that has them as members; it may as
well be read one part after the other, by its place. An array of another length describes nothing:
what is wrong is wrong with its first part as a host, or else with its second as a port, or else
with its length. -/
theorem ofValue_array (parts : List Value) :
    let decoded := ofValue (.array parts)
    (parts.length = 9 →
      decoded = ofValue (.object (Table.ofList (partNames.zip parts))) ∧
      decoded = visit (partNames.zip parts)) ∧
    (parts.length ≠ 9 →
      (∀ v ∈ parts[0]?, ¬IsHost v → decoded = .error (hostMismatch v)) ∧
      (∀ v ∈ parts[1]?, ¬IsPort v → (∀ h ∈ parts[0]?, IsHost h) →
        decoded = .error (portMismatch v)) ∧
      ((∀ h ∈ parts[0]?, IsHost h) → (∀ p ∈ parts[1]?, IsPort p) →
        ∃ m, decoded = .error m ∧ m.message = "invalid length " ++ toString parts.length ++
          ", expected " ++ if parts.length < 9 then "struct Session with 9 elements"
            else "fewer elements in array")) := by
  intro decoded
  refine ⟨fun h => ?_, fun h => ⟨fun v hv hn => ?_, fun v hv hn hh => ?_, fun hh hp => ?_⟩⟩
  · have hnamed : decoded = ofMembers (named parts) := ofParts_eq_ofMembers h
    exact ⟨hnamed.trans (ofMembers_ofList_named h).symm,
      hnamed.trans (visit_eq_ofMembers (inTurn_named h)).symm⟩
  · show ofParts parts = _
    rw [ofParts_eq_withEndpoint h, Option.mem_def.mp hv, withEndpoint_of_not_isHost hn]
  · show ofParts parts = _
    rw [ofParts_eq_withEndpoint h, Option.mem_def.mp hv, withEndpoint_of_not_isPort hh hn]
  · exact ⟨_, ofParts_of_length_ne h hh hp, message_length parts.length⟩

end SessionInventory.Session
