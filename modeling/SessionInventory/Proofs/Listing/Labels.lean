import SessionInventory.Proofs.Inventory.RoundTrip
import SessionInventory.Proofs.Listing.Entries

/-!
# The labels of loaded sessions

Every value that was read is ordered, and a label is part of one. So the labels of a loaded session
are ordered whatever came of the request (`ordered_labels_of_load`), as reading a rendered inventory
back asks of them.
-/

namespace SessionInventory

open Json (Value)

/-! ## Sessions from values -/

theorem mem_decodeLabel {member : Option Value} {v : Value} (h : v ∈ decodeLabel member) :
    member = some v := by
  unfold decodeLabel at h
  split at h
  · cases h
  · cases h
  · exact h

/-- The labels of a session are parts of the value that describes it. -/
theorem Session.ordered_labels {value : Value} {s : Session} (hv : value.Ordered)
    (h : Session.ofValue value = .ok s) : ∀ label ∈ s.labels.toList, ∀ v ∈ label, v.Ordered := by
  cases hv with
  | null | bool | number | string => cases h
  | @object ms hs hm =>
    have hlabel (name : String) : ∀ v ∈ decodeLabel (Table.find? name ms), v.Ordered :=
      fun v hv => hm _ (Table.mem_of_find? (mem_decodeLabel hv))
    rw [ofValue, ofMembers] at h
    split at h
    · cases h
    · split at h
      · cases h
      · cases h
        simp only [Labels.toList, List.forall_mem_cons]
        exact ⟨hlabel _, hlabel _, hlabel _, hlabel _, hlabel _, hlabel _, hlabel _,
          List.forall_mem_nil _⟩
  | @array vs hm =>
    have hlabel {part : Value} (hp : part ∈ vs) : ∀ v ∈ decodeLabel part, v.Ordered := by
      intro v hv
      obtain rfl : part = v := Option.some.inj (mem_decodeLabel hv)
      exact hm part hp
    rw [ofValue, ofParts] at h
    split at h
    · cases h
    · split at h
      · cases h
      · split at h
        · cases h
          simp only [Labels.toList, List.forall_mem_cons]
          exact ⟨hlabel (by simp), hlabel (by simp), hlabel (by simp), hlabel (by simp),
            hlabel (by simp), hlabel (by simp), hlabel (by simp), List.forall_mem_nil _⟩
        · cases h

/-! ## Loaded sessions -/

/-- The entries of a listing are elements of one of its members. -/
theorem ordered_listedEntries {members : Table Value} {entries : List Value}
    (hm : (Value.object members).Ordered) (h : listedEntries members = .ok entries) :
    ∀ entry ∈ entries, entry.Ordered := by
  rw [listedEntries] at h
  split at h
  · cases h
    exact List.forall_mem_nil _
  · cases h
    exact List.forall_mem_nil _
  · rename_i hfind
    cases h
    cases hm with
    | object hs hm =>
      cases hm _ (Table.mem_of_find? hfind) with
      | array h => exact h
  · cases h

theorem ordered_of_receive {address : Address} {exchange : Exchange} {members : Table Value}
    (h : (receive address exchange).2 = .ok members) : (Value.object members).Ordered := by
  cases exchange with
  | broken causes => cases h
  | failed report => cases h
  | answered status body =>
    by_cases hs : isSuccess status = true
    · obtain ⟨before, t, after, d, -, ht, -⟩ := (receive_ok_iff hs address).mp h
      exact ht.ordered
    · simp only [receive, if_neg hs] at h
      cases h

/-- A loaded session is described by an entry of the members that were received. -/
theorem exists_of_mem_load {service : Service} {exchange : Exchange} {s : Session}
    (h : s ∈ (service.load exchange).2) :
    ∃ address members entries, (receive address exchange).2 = .ok members ∧
      listedEntries members = .ok entries ∧ s ∈ sessionsOf entries := by
  rw [Service.load, Service.fetch] at h
  cases hd : service.destination with
  | error e =>
    simp only [hd] at h
    exact absurd h List.not_mem_nil
  | ok destination =>
    cases hr : receive destination.address exchange with
    | mk events result =>
      cases result with
      | error e =>
        simp only [hd, hr] at h
        exact absurd h List.not_mem_nil
      | ok members =>
        cases he : listedEntries members with
        | error m =>
          simp only [hd, hr, listedSessions, he] at h
          exact absurd h List.not_mem_nil
        | ok entries =>
          simp only [hd, hr, listedSessions_of_entries he] at h
          exact ⟨destination.address, members, entries, by rw [hr], he, h⟩

/-- The labels of loaded sessions are ordered. -/
theorem ordered_labels_of_load (service : Service) (exchange : Exchange) :
    ∀ s ∈ (service.load exchange).2, ∀ label ∈ s.labels.toList, ∀ v ∈ label, v.Ordered := by
  intro s hs
  obtain ⟨address, members, entries, hr, he, hmem⟩ := exists_of_mem_load hs
  obtain ⟨entry, hentry, hv⟩ := exists_of_mem_sessionsOf hmem
  exact Session.ordered_labels (ordered_listedEntries (ordered_of_receive hr) he entry hentry) hv

end SessionInventory
