import SessionInventory.Proofs.Inventory.RoundTrip
import SessionInventory.Proofs.Session.Members

/-!
# What an inventory keeps

Of a session an inventory should see the host, the port and the labels, with defaults for what is
missing, and of a list of sessions what it sees of each that has a host (`effectiveSequence`). It
sees nothing else: what it should see determines the inventory and every answer
(`addressable_eq_iff`, `answer_congr`). And it loses nothing of that as long as no key repeats: the
listed keys have kept the order, and what the table holds under them is all the rest
(`Inventory.map_find?_hosts`). `ofSessions_lossless` says both.

Labels are equal here if they are the same value, which is more than that they compare as equal: the
two zeros do, and are printed differently.
-/

namespace SessionInventory

open Json (Value)

/-! ## What an inventory should see -/

namespace Session

/-- What an inventory should see of a session: nothing without a host, and otherwise its host, its
port and its labels, with defaults for what is missing. -/
def seen? (s : Session) : Option (String × UInt16 × List Value) :=
  if s.host.getD "" = "" then none
  else some (s.host.getD "", s.port.getD 22, List.zipWith Option.getD s.labels.toList labelDefaults)

/-- The session that says all that is taken for what this one does not say. -/
def filled (s : Session) : Session :=
  ⟨s.host, some (s.port.getD 22), s.labels.effective.map some⟩

theorem seen?_filled (s : Session) : s.filled.seen? = s.seen? := rfl

end Session

/-- What an inventory should see of sessions, in their order. -/
def effectiveSequence (sessions : List Session) : List (String × UInt16 × List Value) :=
  sessions.filterMap Session.seen?

/-! ## What it sees -/

/-- What the variables of a host say. -/
def HostVars.contents (vars : HostVars) : String × UInt16 × List Value :=
  (vars.endpoint.host, vars.endpoint.port, vars.labels.toList)

theorem HostVars.contents_injective : Function.Injective HostVars.contents := by
  rintro ⟨⟨host, port⟩, labels⟩ ⟨⟨host', port'⟩, labels'⟩ h
  simp only [contents, Prod.mk.injEq] at h
  obtain ⟨rfl, rfl, hlabels⟩ := h
  rw [Labels.toList_injective hlabels]

theorem Session.seen?_eq (s : Session) : s.seen? = s.hostVars?.map HostVars.contents := by
  rw [seen?]
  split
  · rename_i h
    rw [hostVars?, endpoint?_eq_none_iff.mpr h]
    rfl
  · rename_i h
    have hhost : s.host = some (s.host.getD "") := by
      cases hs : s.host with
      | none => simp [hs] at h
      | some host => rfl
    have hvars : s.hostVars? = some ⟨⟨s.host.getD "", s.port.getD defaultPort⟩, s.labels.effective⟩ :=
      hostVars?_eq_some_iff.mpr ⟨endpoint?_eq_some_iff.mpr ⟨hhost, h, rfl⟩, rfl⟩
    rw [hvars]
    rfl

/-- The variables of the addressable sessions say what is to be seen. -/
theorem effectiveSequence_eq_map (sessions : List Session) :
    effectiveSequence sessions = (addressable sessions).map HostVars.contents := by
  simp only [effectiveSequence, addressable, List.map_filterMap, Session.seen?_eq]

variable {sessions xs ys : List Session}

theorem addressable_eq_iff :
    addressable xs = addressable ys ↔ effectiveSequence xs = effectiveSequence ys := by
  rw [effectiveSequence_eq_map, effectiveSequence_eq_map]
  exact (List.map_injective_iff.mpr HostVars.contents_injective).eq_iff.symm

theorem Inventory.ofSessions_congr (h : addressable xs = addressable ys) (keyPath user : String) :
    ofSessions xs keyPath user = ofSessions ys keyPath user := by
  simp only [ofSessions, h]

theorem answer_congr (h : addressable xs = addressable ys) (request : Request)
    (settings : Settings) : answer request xs settings = answer request ys settings := by
  cases request with
  | list => simp only [answer, Inventory.ofSessions_congr h]
  | host name => simp only [answer, hostVars?, h]

theorem render_congr (h : addressable xs = addressable ys) (request : Request)
    (settings : Settings) : render request xs settings = render request ys settings :=
  congrArg Value.pretty (answer_congr h request settings)

/-! ## What it keeps -/

/-- Where no key repeats, under the listed keys stand the variables of the addressable sessions, in
their order. -/
theorem Inventory.map_find?_hosts {keyPath user : String}
    (hn : (ofSessions sessions keyPath user).hosts.Nodup) :
    (ofSessions sessions keyPath user).hosts.map
        (Table.find? · (ofSessions sessions keyPath user).hostVars) =
      (addressable sessions).map some := by
  have hkeys : (((addressable sessions).map fun vars => (vars.endpoint.key, vars)).map
      (·.1)).Nodup := by
    rwa [List.map_map]
  simp only [ofSessions, List.map_map]
  refine List.map_congr_left fun vars hvars => ?_
  rw [Function.comp_apply, Table.find?_ofList_of_nodup hkeys]
  exact (Table.find?_eq_some_iff_of_nodup hkeys).mpr (List.mem_map_of_mem hvars)

theorem addressable_eq_of_ofSessions_eq {keyPath user : String}
    (hx : (Inventory.ofSessions xs keyPath user).hosts.Nodup)
    (hy : (Inventory.ofSessions ys keyPath user).hosts.Nodup)
    (h : Inventory.ofSessions xs keyPath user = Inventory.ofSessions ys keyPath user) :
    addressable xs = addressable ys := by
  have hkept := Inventory.map_find?_hosts hx
  rw [h, Inventory.map_find?_hosts hy] at hkept
  exact (List.map_injective_iff.mpr (fun _ _ => Option.some.inj) hkept).symm

/-- What an inventory should see of sessions determines the inventory and every answer; and if no
key repeats, the inventory determines what it should see. It should see nothing of a session
without a host, and should see no difference between what is missing and its default. -/
theorem ofSessions_lossless (xs ys : List Session) (settings : Settings) :
    let inventory sessions := Inventory.ofSessions sessions settings.keyPath settings.user
    (effectiveSequence xs = effectiveSequence ys → inventory xs = inventory ys ∧
      ∀ request, render request xs settings = render request ys settings) ∧
    ((inventory xs).hosts.Nodup → (inventory ys).hosts.Nodup → inventory xs = inventory ys →
      effectiveSequence xs = effectiveSequence ys) ∧
    (∀ before s after, xs = before ++ s :: after → s.host.getD "" = "" →
      effectiveSequence xs = effectiveSequence (before ++ after)) ∧
    effectiveSequence (xs.map Session.filled) = effectiveSequence xs := by
  intro inventory
  refine ⟨fun h => ?_, fun hx hy h => ?_, ?_, ?_⟩
  · have haddressable := addressable_eq_iff.mpr h
    exact ⟨Inventory.ofSessions_congr haddressable _ _,
      fun request => render_congr haddressable request settings⟩
  · exact addressable_eq_iff.mp (addressable_eq_of_ofSessions_eq hx hy h)
  · rintro before s after rfl hs
    have hseen : s.seen? = none := if_pos hs
    simp only [effectiveSequence, List.filterMap_append, List.filterMap_cons_none hseen]
  · have hfilled : Session.seen? ∘ Session.filled = Session.seen? := funext Session.seen?_filled
    simp only [effectiveSequence, List.filterMap_map, hfilled]

/-- A session without a host, and the defaults of another, are not to be seen. -/
theorem ofSessions_filled_gpu :
    let gpu : Session := { Session.blank with host := some "gpu" }
    let inventory sessions := Inventory.ofSessions sessions "key" "root"
    effectiveSequence [.blank, gpu] = effectiveSequence [gpu.filled] ∧
    (inventory [.blank, gpu]).hosts.Nodup ∧ (inventory [gpu.filled]).hosts.Nodup ∧
    inventory [.blank, gpu] = inventory [gpu.filled] ∧
    ∀ request, render request [.blank, gpu] ⟨"", "key", "root"⟩ =
      render request [gpu.filled] ⟨"", "key", "root"⟩ := by
  intro gpu inventory
  obtain ⟨hforward, hback, -, -⟩ :=
    ofSessions_lossless [.blank, gpu] [gpu.filled] ⟨"", "key", "root"⟩
  have hx : (inventory [.blank, gpu]).hosts.Nodup := List.nodup_singleton _
  have hy : (inventory [gpu.filled]).hosts.Nodup := List.nodup_singleton _
  obtain ⟨hinventory, hrender⟩ := hforward rfl
  exact ⟨hback hx hy hinventory, hx, hy, hinventory, hrender⟩

end SessionInventory
