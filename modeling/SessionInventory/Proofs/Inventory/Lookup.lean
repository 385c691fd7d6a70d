import Mathlib.Data.List.Find
import SessionInventory.Proofs.Inventory.Keys

/-!
# One host against all hosts

A single host is the first that answers to a name, by its key or by its bare host name; the table of
an inventory holds the last of each key. `find?_answersTo_key` compares them where no key repeats:
the host with a key is found under it unless a host before it bears the key as its host name. Such
a host has another key, and so another port than the default one (`port_ne_of_host_eq_key`).

`hostVars?_against_inventory` puts the two views of a list of sessions side by side.
-/

namespace SessionInventory

theorem HostVars.answersTo_iff {vars : HostVars} {name : String} :
    vars.answersTo name = true ↔ vars.endpoint.key = name ∨ vars.endpoint.host = name := by
  simp only [answersTo, Bool.or_eq_true, decide_eq_true_eq]

/-- Where two keys differ, one is the host of the other only on another port than the default. -/
theorem Endpoint.port_ne_of_host_eq_key {e f : Endpoint} (hk : f.key ≠ e.key) (hh : f.host = e.key) :
    f.port ≠ defaultPort :=
  fun hp => hk ((Endpoint.key_of_port_eq hp).trans hh)

/-! ## The first host that answers -/

theorem isSome_hostVars?_of_mem {name : String} {sessions : List Session} {vars : HostVars}
    (hm : vars ∈ addressable sessions) (h : vars.answersTo name) :
    (hostVars? name sessions).isSome :=
  List.find?_isSome.mpr ⟨vars, hm, h⟩

theorem mem_and_answersTo_of_hostVars? {name : String} {sessions : List Session} {vars : HostVars}
    (h : hostVars? name sessions = some vars) : vars ∈ addressable sessions ∧ vars.answersTo name :=
  ⟨List.mem_of_find?_eq_some h, by simpa using List.find?_some h⟩

/-- A session has a host name exactly if it is addressable at that host. -/
theorem exists_host?_iff {sessions : List Session} {host : String} :
    (∃ s ∈ sessions, s.host? = some host) ↔ ∃ w ∈ addressable sessions, w.endpoint.host = host := by
  constructor
  · rintro ⟨s, hm, hs⟩
    have hv : s.hostVars? = some ⟨⟨host, s.effectivePort⟩, s.labels.effective⟩ := by
      simp only [Session.hostVars?, Session.endpoint?, hs, Option.map_some]
    exact ⟨_, mem_addressable_iff.mpr ⟨s, hm, hv⟩, rfl⟩
  · rintro ⟨w, hm, rfl⟩
    obtain ⟨s, hs, hv⟩ := mem_addressable_iff.mp hm
    obtain ⟨host, hh, he⟩ := Option.map_eq_some_iff.mp (Session.hostVars?_eq_some_iff.mp hv).1
    exact ⟨s, hs, by rw [hh, ← he]⟩

/-! ## Keys that do not repeat -/

section Nodup

variable {front back : List HostVars} {vars : HostVars}

theorem key_ne_of_mem_front (hn : ((front ++ vars :: back).map (·.endpoint.key)).Nodup) {w : HostVars}
    (hw : w ∈ front) : w.endpoint.key ≠ vars.endpoint.key := by
  rw [List.map_append, List.map_cons] at hn
  exact (List.nodup_append.mp hn).2.2 _ (List.mem_map_of_mem hw) _ List.mem_cons_self

theorem key_notMem_back (hn : ((front ++ vars :: back).map (·.endpoint.key)).Nodup) :
    vars.endpoint.key ∉ back.map (·.endpoint.key) := by
  rw [List.map_append, List.map_cons] at hn
  exact (List.nodup_cons.mp (List.nodup_append.mp hn).2.1).1

/-- Where no key repeats, the hosts that answer to a key before the host that has it are those that
bear it as their host name. -/
theorem find?_answersTo_key (hn : ((front ++ vars :: back).map (·.endpoint.key)).Nodup) :
    (front ++ vars :: back).find? (·.answersTo vars.endpoint.key) =
      (front.find? (·.endpoint.host = vars.endpoint.key)).or (some vars) := by
  have hself : vars.answersTo vars.endpoint.key = true := HostVars.answersTo_iff.mpr (.inl rfl)
  have hfront : ∀ w ∈ front, w.answersTo vars.endpoint.key =
      decide (w.endpoint.host = vars.endpoint.key) := fun w hw => by
    rw [Bool.eq_iff_iff, HostVars.answersTo_iff, decide_eq_true_eq]
    exact or_iff_right (key_ne_of_mem_front hn hw)
  rw [List.find?_append, List.find?_cons, hself]
  exact congrArg (Option.or · (some vars)) (List.find?_congr hfront)

/-- Where no key repeats, a key is answered by the host that has it if no host before bears it as
its host name, and otherwise by such a host, which has another key. -/
theorem find?_answersTo_key_cases (hn : ((front ++ vars :: back).map (·.endpoint.key)).Nodup) :
    ((∀ w ∈ front, w.endpoint.host ≠ vars.endpoint.key) ∧
      (front ++ vars :: back).find? (·.answersTo vars.endpoint.key) = some vars) ∨
    ∃ w ∈ front, w.endpoint.host = vars.endpoint.key ∧ w.endpoint.key ≠ vars.endpoint.key ∧
      (front ++ vars :: back).find? (·.answersTo vars.endpoint.key) = some w := by
  rw [find?_answersTo_key hn]
  cases hf : front.find? (·.endpoint.host = vars.endpoint.key) with
  | none => exact .inl ⟨fun w hw => by simpa using List.find?_eq_none.mp hf w hw, rfl⟩
  | some w =>
    have hw := List.mem_of_find?_eq_some hf
    exact .inr ⟨w, hw, by simpa using List.find?_some hf, key_ne_of_mem_front hn hw, rfl⟩

end Nodup

/-- A listed key that does not repeat belongs to one session, whose variables stand under it. -/
theorem Inventory.exists_session_of_nodup {sessions : List Session} {keyPath user key : String}
    (hn : (ofSessions sessions keyPath user).hosts.Nodup)
    (hk : key ∈ (ofSessions sessions keyPath user).hosts) :
    ∃ before s after vars, sessions = before ++ s :: after ∧ s.hostVars? = some vars ∧
      vars.endpoint.key = key ∧
      ((addressable before ++ vars :: addressable after).map (·.endpoint.key)).Nodup ∧
      (ofSessions sessions keyPath user).hostVars.find? key = some vars := by
  obtain ⟨vars, hm, rfl⟩ := mem_hosts_iff.mp hk
  obtain ⟨front, back, hsplit⟩ := List.append_of_mem hm
  obtain ⟨before, s, after, rfl, hs, rfl, rfl⟩ := addressable_eq_append_cons_iff.mp hsplit
  have hn' : ((addressable before ++ vars :: addressable after).map (·.endpoint.key)).Nodup :=
    hsplit ▸ hn
  exact ⟨before, s, after, vars, rfl, hs, rfl, hn', sorted_hostVars.find?_eq_some_iff.mpr
    (mem_hostVars_iff.mpr ⟨before, s, after, rfl, hs, rfl, key_notMem_back hn'⟩)⟩

/-- For every list of sessions and every name: a listed key is answered to; who answers is listed,
and has the name as its key or its host. Where no listed key repeats, the answer to a key is its
entry in the inventory exactly if no session before has the key as its host; otherwise it is a
session before, at another endpoint on another port than 22. -/
theorem hostVars?_against_inventory (sessions : List Session) (name keyPath user : String) :
    let inventory := Inventory.ofSessions sessions keyPath user
    (name ∈ inventory.hosts → (hostVars? name sessions).isSome) ∧
    (∀ vars, hostVars? name sessions = some vars → vars.endpoint.key ∈ inventory.hosts ∧
      (vars.endpoint.key = name ∨ vars.endpoint.host = name)) ∧
    (inventory.hosts.Nodup → ∀ key ∈ inventory.hosts, ∃ before s after e,
      sessions = before ++ s :: after ∧ s.endpoint? = some e ∧ e.key = key ∧
      inventory.hostVars.find? key = some ⟨e, s.labels.effective⟩ ∧
      (hostVars? key sessions = inventory.hostVars.find? key ↔ ∀ t ∈ before, t.host? ≠ some key) ∧
      ((∃ t ∈ before, t.host? = some key) → ∃ t ∈ before, ∃ f, t.endpoint? = some f ∧
        hostVars? key sessions = some ⟨f, t.labels.effective⟩ ∧ f ≠ e ∧ f.port ≠ 22)) := by
  intro inventory
  refine ⟨fun hm => ?_, fun vars hv => ?_, fun hn key hk => ?_⟩
  · obtain ⟨vars, hm, hk⟩ := Inventory.mem_hosts_iff.mp hm
    exact isSome_hostVars?_of_mem hm (HostVars.answersTo_iff.mpr (.inl hk))
  · obtain ⟨hm, ha⟩ := mem_and_answersTo_of_hostVars? hv
    exact ⟨Inventory.mem_hosts_iff.mpr ⟨vars, hm, rfl⟩, HostVars.answersTo_iff.mp ha⟩
  · obtain ⟨before, s, after, vars, rfl, hs, rfl, hn, hlist⟩ :=
      Inventory.exists_session_of_nodup hn hk
    obtain ⟨he, hl⟩ := Session.hostVars?_eq_some_iff.mp hs
    have hsplit := addressable_eq_append_cons_iff.mpr ⟨before, s, after, rfl, hs, rfl, rfl⟩
    refine ⟨before, s, after, vars.endpoint, rfl, he, rfl, by rw [hlist, ← hl], ?_⟩
    rw [hlist, hostVars?, hsplit]
    rcases find?_answersTo_key_cases hn with ⟨hnone, hf⟩ | ⟨w, hw, hh, hne, hf⟩
    · have hno : ¬∃ t ∈ before, t.host? = some vars.endpoint.key := fun h => by
        obtain ⟨w, hw, hh⟩ := exists_host?_iff.mp h
        exact hnone w hw hh
      exact ⟨iff_of_true hf fun t ht hh => hno ⟨t, ht, hh⟩, fun h => absurd h hno⟩
    · have hyes := exists_host?_iff.mpr ⟨w, hw, hh⟩
      obtain ⟨t, ht, htv⟩ := mem_addressable_iff.mp hw
      obtain ⟨hte, htl⟩ := Session.hostVars?_eq_some_iff.mp htv
      refine ⟨iff_of_false (fun heq => hne ?_) fun h => ?_,
        fun _ => ⟨t, ht, w.endpoint, hte, ?_, ?_, ?_⟩⟩
      · rw [Option.some.inj (hf.symm.trans heq)]
      · obtain ⟨t', ht', hh'⟩ := hyes
        exact h t' ht' hh'
      · rw [hf, ← htl]
      · exact fun heq => hne (congrArg Endpoint.key heq)
      · exact Endpoint.port_ne_of_host_eq_key hne hh

/-- A host may be called what the key of a later one is. -/
example : (hostVars? "gpu_2222" [
      { Session.blank with host := some "gpu_2222", port := some 40001 },
      { Session.blank with host := some "gpu", port := some 2222 }]).map (·.endpoint) =
    some ⟨"gpu_2222", 40001⟩ := by decide

end SessionInventory
