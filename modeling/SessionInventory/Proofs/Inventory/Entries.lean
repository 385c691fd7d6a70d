import SessionInventory.Inventory
import SessionInventory.Proofs.Table

/-!
# What an inventory lists

The addressable sessions of a list are those that have an endpoint (`endpoint?_eq_some_iff`), each
with the variables at its endpoint (`hostVars?_eq_some_iff`), and a split of the one list is a split
of the other (`addressable_eq_append_cons_iff`). Of its seven labels a session passes on those that
it has, and the defaults for the others (`Labels.eq_effective_iff`).

`ofSessions_lists_addressable` says all of an inventory: it lists the keys of the addressable
sessions in their order, its table has exactly these keys, in the order of their bytes, and under
each the variables of the last session with that key; the variables of the group come from the
settings alone.
-/

namespace SessionInventory

open Json (Value)

/-! ## Labels -/

/-- The labels one after the other. -/
def Labels.toList {α : Type} (l : Labels α) : List α :=
  [l.id, l.consumerId, l.provider, l.offerId, l.gpuType, l.gpuCount, l.pricePerHour]

/-- What is taken for labels that are missing: empty texts, one GPU and no price. -/
def labelDefaults : List Value :=
  [.string "", .string "", .string "", .string "", .string "", .number (.ofUInt16 1),
    .number (.ofUInt16 0)]

theorem Labels.toList_injective {α : Type} : Function.Injective (Labels.toList (α := α)) := by
  rintro ⟨⟩ ⟨⟩ h
  simpa [Labels.toList] using h

/-- The labels that count are those that are there, with the defaults in the places of the others. -/
theorem Labels.eq_effective_iff {labels : Labels Value} {l : Labels (Option Value)} :
    labels = l.effective ↔ labels.toList = List.zipWith Option.getD l.toList labelDefaults := by
  have heffective : l.effective.toList = List.zipWith Option.getD l.toList labelDefaults := rfl
  rw [← heffective]
  exact Labels.toList_injective.eq_iff.symm

/-! ## Addressable sessions -/

/-- An addressable session has a host that is not empty, and the default port if it names none. -/
theorem Session.endpoint?_eq_some_iff {s : Session} {e : Endpoint} :
    s.endpoint? = some e ↔ s.host = some e.host ∧ e.host ≠ "" ∧ e.port = s.port.getD defaultPort := by
  simp only [endpoint?, host?, effectivePort, Option.map_eq_some_iff, Option.filter_eq_some_iff,
    decide_eq_true_eq]
  constructor
  · rintro ⟨host, ⟨hh, hne⟩, rfl⟩
    exact ⟨hh, hne, rfl⟩
  · rintro ⟨hh, hne, hp⟩
    exact ⟨e.host, ⟨hh, hne⟩, by rw [← hp]⟩

theorem Session.endpoint?_eq_none_iff {s : Session} :
    s.endpoint? = none ↔ s.host.getD "" = "" := by
  simp only [endpoint?, host?, Option.map_eq_none_iff]
  cases s.host with
  | none => simp
  | some host => simp [Option.filter]

theorem Session.hostVars?_eq_some_iff {s : Session} {vars : HostVars} :
    s.hostVars? = some vars ↔ s.endpoint? = some vars.endpoint ∧ vars.labels = s.labels.effective := by
  simp only [hostVars?, Option.map_eq_some_iff]
  constructor
  · rintro ⟨e, he, rfl⟩
    exact ⟨he, rfl⟩
  · rintro ⟨he, hl⟩
    exact ⟨vars.endpoint, he, by rw [← hl]⟩

theorem mem_addressable_iff {sessions : List Session} {vars : HostVars} :
    vars ∈ addressable sessions ↔ ∃ s ∈ sessions, s.hostVars? = some vars :=
  List.mem_filterMap

/-- The addressable sessions before and behind one are those of the sessions before and behind it. -/
theorem addressable_eq_append_cons_iff {sessions : List Session} {front back : List HostVars}
    {vars : HostVars} :
    addressable sessions = front ++ vars :: back ↔
      ∃ before s after, sessions = before ++ s :: after ∧ s.hostVars? = some vars ∧
        addressable before = front ∧ addressable after = back := by
  simp only [addressable, List.filterMap_eq_append_iff, List.filterMap_eq_cons_iff]
  constructor
  · rintro ⟨before, _, rfl, hb, between, s, after, rfl, hn, hs, ha⟩
    refine ⟨before ++ between, s, after, by simp, hs, ?_, ha⟩
    rw [List.filterMap_append, hb, List.filterMap_eq_nil_iff.mpr hn, List.append_nil]
  · rintro ⟨before, s, after, rfl, hs, hb, ha⟩
    exact ⟨before, s :: after, rfl, hb, [], s, after, rfl, by simp, hs, ha⟩

theorem endpoints_addressable (sessions : List Session) :
    (addressable sessions).map (·.endpoint) = sessions.filterMap Session.endpoint? := by
  simp only [addressable, List.map_filterMap, Session.hostVars?, Option.map_map]
  exact congrArg (List.filterMap · sessions) (funext fun s => Option.map_id')

theorem keys_addressable (sessions : List Session) :
    (addressable sessions).map (·.endpoint.key) =
      sessions.filterMap fun s => s.endpoint?.map Endpoint.key := by
  rw [← List.map_filterMap, ← endpoints_addressable, List.map_map]
  rfl

/-! ## The inventory -/

namespace Inventory

variable {sessions : List Session} {keyPath user : String}

theorem mem_hosts_iff {key : String} :
    key ∈ (ofSessions sessions keyPath user).hosts ↔
      ∃ vars ∈ addressable sessions, vars.endpoint.key = key :=
  List.mem_map

theorem mem_keys_hostVars_iff {key : String} :
    key ∈ (ofSessions sessions keyPath user).hostVars.keys ↔
      key ∈ (ofSessions sessions keyPath user).hosts := by
  simp only [ofSessions, Table.mem_keys_ofList, List.map_map]
  rfl

theorem sorted_hostVars : (ofSessions sessions keyPath user).hostVars.Sorted :=
  Table.sorted_ofList _

/-- Under a key stand the variables of the last addressable session with that key. -/
theorem mem_hostVars_iff {key : String} {vars : HostVars} :
    (key, vars) ∈ (ofSessions sessions keyPath user).hostVars ↔
      ∃ before s after, sessions = before ++ s :: after ∧ s.hostVars? = some vars ∧
        vars.endpoint.key = key ∧ key ∉ (addressable after).map (·.endpoint.key) := by
  simp only [ofSessions, Table.mem_ofList_iff, List.map_eq_append_iff, List.map_eq_cons_iff]
  constructor
  · rintro ⟨_, _, ⟨front, _, hsplit, rfl, vars', back, rfl, heq, rfl⟩, hlast⟩
    obtain ⟨rfl, rfl⟩ := Prod.mk.inj heq
    obtain ⟨before, s, after, rfl, hs, -, rfl⟩ := addressable_eq_append_cons_iff.mp hsplit
    refine ⟨before, s, after, rfl, hs, rfl, fun hm => ?_⟩
    obtain ⟨w, hw, heq⟩ := List.mem_map.mp hm
    exact hlast (w.endpoint.key, w) (List.mem_map_of_mem hw) heq
  · rintro ⟨before, s, after, rfl, hs, rfl, hlast⟩
    refine ⟨_, _, ⟨addressable before, vars :: addressable after, ?_, rfl, vars, _, rfl, rfl, rfl⟩,
      fun entry hm heq => ?_⟩
    · exact addressable_eq_append_cons_iff.mpr ⟨before, s, after, rfl, hs, rfl, rfl⟩
    · obtain ⟨w, hw, rfl⟩ := List.mem_map.mp hm
      exact hlast (List.mem_map.mpr ⟨w, hw, heq⟩)

/-- The listed keys and the sessions that are not addressable make up all sessions. -/
theorem length_hosts_add :
    (ofSessions sessions keyPath user).hosts.length +
      (sessions.filter fun s => s.host.getD "" = "").length = sessions.length := by
  have hp : ∀ s : Session, (s.endpoint?.map Endpoint.key).isSome = !decide (s.host.getD "" = "") :=
    fun s => by
      rw [Option.isSome_map, ← Option.not_isNone, Bool.not_inj_iff, Bool.eq_iff_iff,
        Option.isNone_iff_eq_none, Session.endpoint?_eq_none_iff, decide_eq_true_eq]
  show ((addressable sessions).map (·.endpoint.key)).length + _ = _
  rw [keys_addressable, List.length_filterMap_eq_countP, ← List.countP_eq_length_filter,
    List.length_eq_countP_add_countP (fun s : Session => decide (s.host.getD "" = "")), Nat.add_comm]
  simp only [hp, decide_eq_true_eq, decide_not]

end Inventory

/-- An inventory lists the keys of the addressable sessions in order, repeats kept. Its table has
exactly the listed keys, in strictly rising order of their bytes, and under each the variables of
the last addressable session with that key: its host, its port and its seven labels, with the defaults
for what is missing. The variables of the group do not depend on the sessions. -/
theorem ofSessions_lists_addressable (sessions : List Session) (keyPath user : String) :
    let inventory := Inventory.ofSessions sessions keyPath user
    inventory.hosts = sessions.filterMap (fun s => s.endpoint?.map Endpoint.key) ∧
    inventory.hosts.length + (sessions.filter fun s => s.host.getD "" = "").length =
      sessions.length ∧
    inventory.hostVars.keys.Pairwise (fun a b => Utf8.encode a < Utf8.encode b) ∧
    (∀ key, key ∈ inventory.hostVars.keys ↔ key ∈ inventory.hosts) ∧
    (∀ key vars, (key, vars) ∈ inventory.hostVars ↔
      ∃ before s after, sessions = before ++ s :: after ∧
        (s.host = some vars.endpoint.host ∧ vars.endpoint.host ≠ "" ∧
          vars.endpoint.port = s.port.getD 22) ∧
        vars.labels.toList = List.zipWith Option.getD s.labels.toList labelDefaults ∧
        vars.endpoint.key = key ∧ ∀ t ∈ after, t.endpoint?.map Endpoint.key ≠ some key) ∧
    inventory.groupVars = ⟨user, keyPath, unpinnedHostKeys⟩ ∧
    ∀ others, (Inventory.ofSessions others keyPath user).groupVars = inventory.groupVars := by
  intro inventory
  refine ⟨keys_addressable sessions, Inventory.length_hosts_add,
    Inventory.sorted_hostVars.keys_pairwise, fun key => Inventory.mem_keys_hostVars_iff,
    fun key vars => ?_, rfl, fun _ => rfl⟩
  have hlast : ∀ after : List Session, key ∉ (addressable after).map (·.endpoint.key) ↔
      ∀ t ∈ after, t.endpoint?.map Endpoint.key ≠ some key := fun after => by
    rw [keys_addressable, List.mem_filterMap]
    exact ⟨fun h t ht heq => h ⟨t, ht, heq⟩, fun h ⟨t, ht, heq⟩ => h t ht heq⟩
  rw [Inventory.mem_hostVars_iff]
  simp only [hlast, Session.hostVars?_eq_some_iff, Session.endpoint?_eq_some_iff,
    Labels.eq_effective_iff, and_assoc, defaultPort]

end SessionInventory
