import Mathlib.Data.List.Induction
import SessionInventory.Proofs.Session.Shapes
import SessionInventory.Proofs.Table

/-!
# The session of an object

The host of an object is looked at before its port, and what is wrong with the one or the other is a
matter of its value alone (`hostMismatch`, `portMismatch`). Everything else is labels, which are
never wrong.

An object may as well be read one member after the other (`Session.visit`), up to the first that
does not fit, as long as no name repeats and no host stands behind a port (`Session.InTurn`). In a
table in key order that is so. `Session.ofValue_object` says all of the session that comes of an
object.
-/

namespace SessionInventory

open Json (Value Mismatch)

/-! ## Labels, one by one -/

namespace Labels

variable {α β : Type}

/-- The members that labels are given by. -/
def names : Labels String where
  id := "id"
  consumerId := "consumer_id"
  provider := "provider"
  offerId := "offer_id"
  gpuType := "gpu_type"
  gpuCount := "gpu_count"
  pricePerHour := "price_per_hour"

/-- The image of each label. -/
def map (f : α → β) (l : Labels α) : Labels β where
  id := f l.id
  consumerId := f l.consumerId
  provider := f l.provider
  offerId := f l.offerId
  gpuType := f l.gpuType
  gpuCount := f l.gpuCount
  pricePerHour := f l.pricePerHour

/-- The labels with another one under a name, if that is the name of one. -/
def put (l : Labels α) (name : String) (label : α) : Labels α where
  id := if name = names.id then label else l.id
  consumerId := if name = names.consumerId then label else l.consumerId
  provider := if name = names.provider then label else l.provider
  offerId := if name = names.offerId then label else l.offerId
  gpuType := if name = names.gpuType then label else l.gpuType
  gpuCount := if name = names.gpuCount then label else l.gpuCount
  pricePerHour := if name = names.pricePerHour then label else l.pricePerHour

theorem put_host (l : Labels α) (label : α) : l.put "ssh_host" label = l := by
  simp [put, names]

theorem put_port (l : Labels α) (label : α) : l.put "ssh_port" label = l := by
  simp [put, names]

end Labels

/-! ## Hosts and ports -/

/-- Whether a value is `null`. -/
def Json.Value.isNull : Value → Bool
  | .null => true
  | _ => false

/-- What is wrong with a value that a host cannot be given as. -/
def hostMismatch (v : Value) : Mismatch := .kind v.found .string

/-- What is wrong with a value that a port cannot be given as. -/
def portMismatch : Value → Mismatch
  | .number (.whole n _) => .range n .port
  | v => .kind v.found .port

variable {member host port : Option Value} {v : Value}

theorem exists_decodeHost (h : ∀ v ∈ member, IsHost v) : ∃ host, decodeHost member = .ok host := by
  cases member with
  | none => exact ⟨none, rfl⟩
  | some v => exact exists_decodeHost_iff.mpr (h v rfl)

theorem exists_decodePort (h : ∀ v ∈ member, IsPort v) : ∃ port, decodePort member = .ok port := by
  cases member with
  | none => exact ⟨none, rfl⟩
  | some v => exact exists_decodePort_iff.mpr (h v rfl)

theorem decodeHost_of_not_isHost (h : ¬IsHost v) :
    decodeHost (some v) = .error (hostMismatch v) := by
  cases v with
  | null => exact absurd (.inl rfl) h
  | string s => exact absurd (.inr ⟨s, rfl⟩) h
  | bool | number | array | object => rfl

theorem decodePort_of_not_isPort (h : ¬IsPort v) :
    decodePort (some v) = .error (portMismatch v) := by
  cases v with
  | null => exact absurd (.inl rfl) h
  | bool | string | array | object => rfl
  | number n =>
    cases n with
    | float f => rfl
    | whole n hn =>
      rw [decodePort_whole, if_neg]
      · rfl
      · rintro ⟨hlow, hhigh⟩
        exact h (.inr ⟨n, hn, rfl, hlow, by omega⟩)

/-- A host is read from a text and from nothing else. -/
theorem eq_some_iff_of_decodeHost {given : Option String} (h : decodeHost member = .ok given)
    {host : String} : given = some host ↔ member = some (.string host) := by
  cases member with
  | none => cases h; exact iff_of_false nofun nofun
  | some v =>
    cases v with
    | null => cases h; exact iff_of_false nofun nofun
    | string s => cases h; simp
    | bool | number | array | object => cases h

/-- A port is read from the number that it is and from nothing else. -/
theorem eq_some_iff_of_decodePort {given : Option UInt16} (h : decodePort member = .ok given)
    {port : UInt16} : given = some port ↔ ∃ h, member = some (.number (.whole port.toNat h)) := by
  cases member with
  | none => cases h; simp
  | some v =>
    cases v with
    | null => cases h; simp
    | bool | string | array | object => cases h
    | number n =>
      cases n with
      | float f => cases h
      | whole n hn =>
        rw [decodePort_whole] at h
        split at h
        · rename_i hrange
          cases h
          have hport : n.toNat.toUInt16 = port ↔ n = port.toNat := by
            rw [← UInt16.toNat_inj, UInt16.toNat_ofNat']
            omega
          rw [Option.some.injEq, hport]
          constructor
          · rintro rfl
            exact ⟨hn, rfl⟩
          · rintro ⟨_, heq⟩
            cases heq
            rfl
        · cases h

theorem decodeLabel_eq_filter (member : Option Value) :
    decodeLabel member = member.filter (!·.isNull) := by
  cases member with
  | none => rfl
  | some v => cases v <;> rfl

/-! ## Hosts come before ports -/

namespace Session

/-- Goes on with the host and the port that two members give. -/
def withEndpoint (host port : Option Value)
    (finish : Option String → Option UInt16 → Except Mismatch Session) : Except Mismatch Session :=
  match decodeHost host with
  | .error m => .error m
  | .ok host =>
    match decodePort port with
    | .error m => .error m
    | .ok port => finish host port

section

variable {finish : Option String → Option UInt16 → Except Mismatch Session}

theorem withEndpoint_of_not_isHost (h : ¬IsHost v) :
    withEndpoint (some v) port finish = .error (hostMismatch v) := by
  rw [withEndpoint, decodeHost_of_not_isHost h]

theorem withEndpoint_of_not_isPort (hh : ∀ v ∈ host, IsHost v) (h : ¬IsPort v) :
    withEndpoint host (some v) finish = .error (portMismatch v) := by
  obtain ⟨given, hgiven⟩ := exists_decodeHost hh
  simp only [withEndpoint, hgiven, decodePort_of_not_isPort h]

variable (finish) in
theorem exists_withEndpoint_eq (hh : ∀ v ∈ host, IsHost v) (hp : ∀ v ∈ port, IsPort v) :
    ∃ h p, withEndpoint host port finish = finish h p := by
  obtain ⟨h, hh⟩ := exists_decodeHost hh
  obtain ⟨p, hp⟩ := exists_decodePort hp
  exact ⟨h, p, by simp only [withEndpoint, hh, hp]⟩

theorem withEndpoint_eq_ok_iff {s : Session} : withEndpoint host port finish = .ok s ↔
    ∃ h p, decodeHost host = .ok h ∧ decodePort port = .ok p ∧ finish h p = .ok s := by
  rw [withEndpoint]
  cases decodeHost host with
  | error m => simp
  | ok h => cases decodePort port <;> simp

end

variable {members others : Table Value}

/-- The names of the parts of a session, in the order in which an array has them. -/
def partNames : List String :=
  ["ssh_host", "ssh_port", "id", "consumer_id", "provider", "offer_id", "gpu_type", "gpu_count",
    "price_per_hour"]

/-- The labels that members give. -/
def labelsOf (members : Table Value) : Labels (Option Value) :=
  Labels.names.map fun name => decodeLabel (Table.find? name members)

theorem ofMembers_eq_withEndpoint (members : Table Value) : ofMembers members =
    withEndpoint (members.find? "ssh_host") (members.find? "ssh_port") fun host port =>
      .ok ⟨host, port, labelsOf members⟩ := rfl

/-! ## Members that are taken in turn -/

/-- The session with what one more member gives. -/
def take (s : Session) (m : String × Value) : Except Mismatch Session :=
  if m.1 = "ssh_host" then
    match decodeHost (some m.2) with
    | .error mismatch => .error mismatch
    | .ok host => .ok { s with host := host }
  else if m.1 = "ssh_port" then
    match decodePort (some m.2) with
    | .error mismatch => .error mismatch
    | .ok port => .ok { s with port := port }
  else .ok { s with labels := s.labels.put m.1 (decodeLabel (some m.2)) }

/-- The session of members that are taken one after the other, up to one that does not fit. -/
def visit (members : List (String × Value)) : Except Mismatch Session := members.foldlM take blank

/-- No name repeats, and no host stands behind a port. -/
def InTurn (members : List (String × Value)) : Prop :=
  (members.map (·.1)).Pairwise fun name later =>
    name ≠ later ∧ ¬(name = "ssh_port" ∧ later = "ssh_host")

theorem inTurn_of_sorted (h : members.Sorted) : InTurn members := by
  refine List.Pairwise.imp (fun {name later} hb => ⟨?_, ?_⟩) h.keys_pairwise
  · rintro rfl
    exact Table.Before.irrefl name hb
  · rintro ⟨rfl, rfl⟩
    exact absurd hb (by decide)

theorem labelsOf_concat {m : String × Value} (h : members.find? m.1 = none) :
    labelsOf (members ++ [m]) = (labelsOf members).put m.1 (decodeLabel (some m.2)) := by
  have hlabel (name : String) : decodeLabel (Table.find? name (members ++ [m])) =
      if m.1 = name then decodeLabel (some m.2) else decodeLabel (members.find? name) := by
    rw [Table.find?_concat h]
    split <;> rfl
  simp only [labelsOf, Labels.map, Labels.put, hlabel]

/-- One more member in its turn adds what it gives. -/
theorem ofMembers_concat {m : String × Value} (h : InTurn (members ++ [m])) :
    ofMembers (members ++ [m]) = ofMembers members >>= fun s => take s m := by
  rw [InTurn, List.map_append, List.pairwise_append] at h
  have hturn (n) (hn : n ∈ members) : n.1 ≠ m.1 ∧ ¬(n.1 = "ssh_port" ∧ m.1 = "ssh_host") :=
    h.2.2 n.1 (List.mem_map_of_mem hn) m.1 (List.mem_singleton_self m.1)
  have habsent : members.find? m.1 = none :=
    Table.find?_eq_none_iff.mpr fun n hn => (hturn n hn).1
  rw [ofMembers_eq_withEndpoint, ofMembers_eq_withEndpoint, Table.find?_concat habsent,
    Table.find?_concat habsent, labelsOf_concat habsent]
  obtain ⟨name, v⟩ := m
  by_cases hhost : name = "ssh_host"
  · subst name
    have hport : members.find? "ssh_port" = none :=
      Table.find?_eq_none_iff.mpr fun n hn heq => (hturn n hn).2 ⟨heq, rfl⟩
    simp only [habsent, hport, withEndpoint, take, if_true, Labels.put_host]
    cases decodeHost (some v) <;> rfl
  · by_cases hport : name = "ssh_port"
    · subst name
      simp only [habsent, if_neg hhost, withEndpoint, take, if_true, Labels.put_port]
      cases decodeHost (members.find? "ssh_host") with
      | error mismatch => rfl
      | ok host => cases decodePort (some v) <;> rfl
    · simp only [if_neg hhost, if_neg hport, withEndpoint, take]
      cases decodeHost (members.find? "ssh_host") with
      | error mismatch => rfl
      | ok host => cases decodePort (members.find? "ssh_port") <;> rfl

/-- Members that are taken in turn give the session of their object. -/
theorem visit_eq_ofMembers (h : InTurn members) : visit members = ofMembers members := by
  induction members using List.reverseRecOn with
  | nil => rfl
  | append_singleton front m ih =>
    have hfront : InTurn front := by
      rw [InTurn, List.map_append, List.pairwise_append] at h
      exact h.1
    rw [ofMembers_concat h, ← ih hfront, visit, List.foldlM_append]
    simp only [List.foldlM_cons, List.foldlM_nil, bind_pure, visit]

/-! ## The session of an object -/

theorem ofMembers_ok_iff {s : Session} : ofMembers members = .ok s ↔
    decodeHost (members.find? "ssh_host") = .ok s.host ∧
      decodePort (members.find? "ssh_port") = .ok s.port ∧ s.labels = labelsOf members := by
  rw [ofMembers_eq_withEndpoint, withEndpoint_eq_ok_iff]
  constructor
  · rintro ⟨h, p, hh, hp, hs⟩
    cases hs
    exact ⟨hh, hp, rfl⟩
  · rintro ⟨hh, hp, hl⟩
    exact ⟨s.host, s.port, hh, hp, by rw [← hl]⟩

/-- What is wrong with members is wrong with the host or the port. -/
theorem ofMembers_error_congr (hh : others.find? "ssh_host" = members.find? "ssh_host")
    (hp : others.find? "ssh_port" = members.find? "ssh_port") {m : Mismatch} :
    ofMembers others = .error m ↔ ofMembers members = .error m := by
  rw [ofMembers_eq_withEndpoint, ofMembers_eq_withEndpoint, hh, hp, withEndpoint, withEndpoint]
  cases decodeHost (members.find? "ssh_host") with
  | error mismatch => rfl
  | ok host => cases decodePort (members.find? "ssh_port") <;> simp

/-- Members make a difference by the names of the parts of a session only. -/
theorem ofMembers_congr (h : ∀ name ∈ partNames, others.find? name = members.find? name) :
    ofMembers others = ofMembers members := by
  simp only [partNames, List.forall_mem_cons] at h
  obtain ⟨hhost, hport, hid, hconsumer, hprovider, hoffer, htype, hcount, hprice, -⟩ := h
  simp only [ofMembers, hhost, hport, hid, hconsumer, hprovider, hoffer, htype, hcount, hprice]

theorem ofMembers_of_not_isHost (hv : members.find? "ssh_host" = some v) (h : ¬IsHost v) :
    ofMembers members = .error (hostMismatch v) := by
  rw [ofMembers_eq_withEndpoint, hv, withEndpoint_of_not_isHost h]

theorem ofMembers_of_not_isPort (hv : members.find? "ssh_port" = some v) (h : ¬IsPort v)
    (hh : ∀ v ∈ members.find? "ssh_host", IsHost v) :
    ofMembers members = .error (portMismatch v) := by
  rw [ofMembers_eq_withEndpoint, hv, withEndpoint_of_not_isPort hh h]

/-- Members describe a session exactly if nothing is wrong with the host or the port. -/
theorem exists_ofMembers_iff : (∃ s, ofMembers members = .ok s) ↔
    (∀ v ∈ members.find? "ssh_host", IsHost v) ∧ ∀ v ∈ members.find? "ssh_port", IsPort v := by
  constructor
  · rintro ⟨s, hs⟩
    have hh : ∀ v ∈ members.find? "ssh_host", IsHost v := fun v hv => by
      by_contra h
      cases (ofMembers_of_not_isHost hv h).symm.trans hs
    refine ⟨hh, fun v hv => ?_⟩
    by_contra h
    cases (ofMembers_of_not_isPort hv h hh).symm.trans hs
  · rintro ⟨hh, hp⟩
    obtain ⟨host, port, heq⟩ :=
      exists_withEndpoint_eq (fun host port => .ok ⟨host, port, labelsOf members⟩) hh hp
    exact ⟨_, heq⟩

/-- An object describes a session exactly if its host and its port, where it has them, are of the
right kind. The session then has the host and the port that the members give, and as labels the
members of their names, of which `null` is none. Otherwise what is wrong is wrong with the host, or
with the port if nothing is with the host, whatever the other members are, and these make no
difference to the host and the port either; members that go by none of the nine names make none at
all. The members of a table in key order may as well be taken one after the other. -/
theorem ofValue_object (members : Table Value) :
    let decoded := ofValue (.object members)
    ((∃ s, decoded = .ok s) ↔
      (∀ v ∈ members.find? "ssh_host", IsHost v) ∧ ∀ v ∈ members.find? "ssh_port", IsPort v) ∧
    (∀ s, decoded = .ok s →
      (∀ host, s.host = some host ↔ members.find? "ssh_host" = some (.string host)) ∧
      (∀ port, s.port = some port ↔
        ∃ h, members.find? "ssh_port" = some (.number (.whole port.toNat h))) ∧
      s.labels = Labels.names.map fun name => (members.find? name).filter (!·.isNull)) ∧
    (∀ v ∈ members.find? "ssh_host", ¬IsHost v → decoded = .error (hostMismatch v)) ∧
    (∀ v ∈ members.find? "ssh_port", ¬IsPort v →
      (∀ h ∈ members.find? "ssh_host", IsHost h) → decoded = .error (portMismatch v)) ∧
    (∀ others : Table Value, others.find? "ssh_host" = members.find? "ssh_host" →
      others.find? "ssh_port" = members.find? "ssh_port" →
      (∀ m, ofValue (.object others) = .error m ↔ decoded = .error m) ∧
      ∀ s t, decoded = .ok s → ofValue (.object others) = .ok t →
        t.host = s.host ∧ t.port = s.port) ∧
    (∀ others : Table Value,
      (∀ name ∈ partNames, others.find? name = members.find? name) →
        ofValue (.object others) = decoded) ∧
    (members.Sorted → decoded = visit members) := by
  intro decoded
  refine ⟨exists_ofMembers_iff, fun s hs => ?_, fun v => ofMembers_of_not_isHost,
    fun v => ofMembers_of_not_isPort, fun others hh hp => ⟨fun m => ofMembers_error_congr hh hp, ?_⟩,
    fun others => ofMembers_congr, fun h => (visit_eq_ofMembers (inTurn_of_sorted h)).symm⟩
  · obtain ⟨hh, hp, hl⟩ := ofMembers_ok_iff.mp hs
    refine ⟨fun host => eq_some_iff_of_decodeHost hh, fun port => eq_some_iff_of_decodePort hp, ?_⟩
    simp only [hl, labelsOf, decodeLabel_eq_filter]
  · intro s t hs ht
    obtain ⟨hsh, hsp, -⟩ := ofMembers_ok_iff.mp hs
    obtain ⟨hth, htp, -⟩ := ofMembers_ok_iff.mp ht
    rw [hh, hsh] at hth
    rw [hp, hsp] at htp
    exact ⟨(Except.ok.inj hth).symm, (Except.ok.inj htp).symm⟩

/-- What is wrong with the host comes before what is wrong with the port. -/
example : ofValue (.object [("ssh_host", .bool true), ("ssh_port", .string "a")]) =
    .error (.kind (.bool true) .string) := rfl

end Session

end SessionInventory
