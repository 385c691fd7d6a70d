import SessionInventory.Proofs.Inventory.Entries
import SessionInventory.Proofs.Json.Printed

/-!
# Reading a rendered answer

What `render` writes is read back whole (`read_render`): the tables of an inventory, with all members
of every host (`Inventory.members`), or the members of one host (`HostVars.members`). Labels may hold
anything but floats, and their objects keep their members in key order, as in every value that was
read. They only must not be too deep: four containers stand around a label in the answer for all
hosts and one in the answer for a single host, of the 127 that a reader goes into.
-/

namespace SessionInventory

open Json (Value)

/-! ## Labels -/

/-- What holds of the labels that are there and of the defaults holds of all labels. -/
theorem Labels.forall_effective {P : Value → Prop} {l : Labels (Option Value)}
    (h : ∀ label ∈ l.toList, ∀ v ∈ label, P v) (hs : P (.string ""))
    (hn : ∀ n hn, P (.number (.ofNat n hn))) : ∀ v ∈ l.effective.toList, P v := by
  have orDefault : ∀ label ∈ l.toList, ∀ d, P d → P (label.getD d) := by
    intro label hl d hd
    cases label with
    | none => exact hd
    | some v => exact h _ hl v rfl
  intro v hv
  simp only [toList, effective, List.mem_cons, List.not_mem_nil, or_false] at hv
  rcases hv with rfl | rfl | rfl | rfl | rfl | rfl | rfl
  all_goals exact orDefault _ (by simp [toList]) _ (by first | exact hs | exact hn _ _)

variable {sessions : List Session}

/-- What holds of the labels of all sessions and of the defaults holds of the labels of an
addressable session. -/
theorem forall_labels_of_mem_addressable {P : Value → Prop}
    (h : ∀ s ∈ sessions, ∀ label ∈ s.labels.toList, ∀ v ∈ label, P v) (hs : P (.string ""))
    (hn : ∀ n hn, P (.number (.ofNat n hn))) {vars : HostVars} (hv : vars ∈ addressable sessions) :
    ∀ v ∈ vars.labels.toList, P v := by
  obtain ⟨s, hmem, hvars⟩ := mem_addressable_iff.mp hv
  rw [(Session.hostVars?_eq_some_iff.mp hvars).2]
  exact Labels.forall_effective (h s hmem) hs hn

theorem mem_addressable_of_hostVars? {name : String} {vars : HostVars}
    (h : hostVars? name sessions = some vars) : vars ∈ addressable sessions :=
  List.mem_of_find?_eq_some h

theorem mem_addressable_of_mem_hostVars {keyPath user : String} {entry : String × HostVars}
    (h : entry ∈ (Inventory.ofSessions sessions keyPath user).hostVars) :
    entry.2 ∈ addressable sessions := by
  obtain ⟨before, s, after, rfl, hs, -⟩ := Inventory.mem_hostVars_iff.mp h
  exact mem_addressable_iff.mpr ⟨s, by simp, hs⟩

/-! ## The members that are read -/

/-- The members of a host, in key order. -/
def HostVars.members (vars : HostVars) : Table Value := [
  ("ansible_host", .string vars.endpoint.host),
  ("ansible_port", .number (.ofUInt16 vars.endpoint.port)),
  ("consumer_id", vars.labels.consumerId),
  ("gpu_count", vars.labels.gpuCount),
  ("gpu_type", vars.labels.gpuType),
  ("offer_id", vars.labels.offerId),
  ("price_per_hour", vars.labels.pricePerHour),
  ("provider", vars.labels.provider),
  ("session_id", vars.labels.id)]

/-- The members that hold for every host, in key order. -/
def GroupVars.members (vars : GroupVars) : Table Value := [
  ("ansible_ssh_common_args", .string vars.sshArguments),
  ("ansible_ssh_private_key_file", .string vars.keyPath),
  ("ansible_user", .string vars.user)]

/-- The members of an inventory, in key order. -/
def Inventory.members (inventory : Inventory) : Table Value := [
  ("_meta", .object [
    ("hostvars", .object (inventory.hostVars.map fun (key, vars) => (key, .object vars.members)))]),
  ("benchmark_nodes", .object [
    ("hosts", .array (inventory.hosts.map .string)),
    ("vars", .object inventory.groupVars.members)])]

/-! ## The documents -/

namespace HostVars

variable {vars : HostVars}

theorem floatless_document (h : ∀ v ∈ vars.labels.toList, v.Floatless) : vars.document.Floatless := by
  simp only [Labels.toList, List.forall_mem_cons] at h
  obtain ⟨hid, hconsumer, hprovider, hoffer, htype, hcount, hprice, -⟩ := h
  refine .object ?_
  simp only [List.forall_mem_cons]
  exact ⟨.string _, .whole _ _, hid, hprovider, htype, hcount, hprice, hoffer, hconsumer,
    List.forall_mem_nil _⟩

theorem arranged_document (h : ∀ v ∈ vars.labels.toList, v.Ordered) :
    vars.document.arranged = .object vars.members := by
  simp only [Labels.toList, List.forall_mem_cons] at h
  obtain ⟨hid, hconsumer, hprovider, hoffer, htype, hcount, hprice, -⟩ := h
  simp only [document, Value.arranged, Json.arrangedMembers, hid.arranged_eq, hconsumer.arranged_eq,
    hprovider.arranged_eq, hoffer.arranged_eq, htype.arranged_eq, hcount.arranged_eq,
    hprice.arranged_eq]
  rfl

/-- One container stands around the labels of a host. -/
theorem nesting_document_le_iff {n : Nat} :
    vars.document.nesting ≤ n + 1 ↔ ∀ v ∈ vars.labels.toList, v.nesting ≤ n := by
  simp only [document, Value.nesting, Nat.add_le_add_iff_right, Json.nestingOfMembers_le_iff,
    Labels.toList, List.forall_mem_cons, Nat.zero_le, true_and]
  constructor
  · rintro ⟨hid, hprovider, htype, hcount, hprice, hoffer, hconsumer, hnil⟩
    exact ⟨hid, hconsumer, hprovider, hoffer, htype, hcount, hprice, List.forall_mem_nil _⟩
  · rintro ⟨hid, hconsumer, hprovider, hoffer, htype, hcount, hprice, hnil⟩
    exact ⟨hid, hprovider, htype, hcount, hprice, hoffer, hconsumer, List.forall_mem_nil _⟩

end HostVars

namespace Inventory

variable {inventory : Inventory}

theorem floatless_document
    (h : ∀ entry ∈ inventory.hostVars, ∀ v ∈ entry.2.labels.toList, v.Floatless) :
    inventory.document.Floatless := by
  simp only [document, GroupVars.document, Value.floatless_object_iff, Value.floatless_array_iff,
    List.forall_mem_cons, List.forall_mem_map]
  refine ⟨⟨fun key _ => .string key, ⟨.string _, .string _, .string _, ?_⟩, ?_⟩, ⟨?_, ?_⟩, ?_⟩
  case refine_3 => exact fun entry he => HostVars.floatless_document (h entry he)
  all_goals exact List.forall_mem_nil _

/-- Four containers stand around the labels in an inventory. -/
theorem nesting_document_le_iff {n : Nat} :
    inventory.document.nesting ≤ n + 4 ↔
      ∀ entry ∈ inventory.hostVars, ∀ v ∈ entry.2.labels.toList, v.nesting ≤ n := by
  have hgroup : inventory.groupVars.document.nesting ≤ n + 2 := by
    show 0 + 1 ≤ n + 2
    omega
  simp only [document, Value.nesting, Nat.add_le_add_iff_right, Json.nestingOfMembers_le_iff,
    Json.nestingOfElements_le_iff, List.forall_mem_cons, List.forall_mem_map, hgroup,
    HostVars.nesting_document_le_iff, Nat.zero_le, List.not_mem_nil, false_implies, implies_true,
    true_and, and_true]

theorem arranged_document (hs : inventory.hostVars.Sorted)
    (h : ∀ entry ∈ inventory.hostVars, ∀ v ∈ entry.2.labels.toList, v.Ordered) :
    inventory.document.arranged = .object inventory.members := by
  have hhosts : (inventory.hosts.map Value.string).map Value.arranged =
      inventory.hosts.map .string := by
    rw [List.map_map]
    rfl
  have hentries : (inventory.hostVars.map fun (key, vars) => (key, vars.document)).map
        (fun m => (m.1, m.2.arranged)) =
      inventory.hostVars.map fun (key, vars) => (key, .object vars.members) := by
    rw [List.map_map]
    refine List.map_congr_left fun entry he => ?_
    exact congrArg (Prod.mk entry.1) (HostVars.arranged_document (h entry he))
  have hsorted : Table.Sorted
      (inventory.hostVars.map fun (key, vars) => (key, Value.object vars.members)) :=
    List.pairwise_map.mpr hs
  simp only [document, Value.arranged, Json.arrangedMembers, Json.arrangedElements_eq_map,
    Json.arrangedMembers_eq_map, hhosts, hentries, Table.ofList_of_sorted hsorted]
  rfl

end Inventory

/-! ## Rendered answers -/

theorem render_host_of_none {settings : Settings} {name : String}
    (h : hostVars? name sessions = none) :
    render (.host name) sessions settings = (Value.object []).pretty := by
  simp only [render, answer, h]

theorem render_host_of_some {settings : Settings} {name : String} {vars : HostVars}
    (h : hostVars? name sessions = some vars) :
    render (.host name) sessions settings = vars.document.pretty := by
  simp only [render, answer, h]

theorem message_read_pretty {v : Value} (h : v.Floatless) (hd : 127 < v.nesting) :
    ∃ e, Json.read v.pretty = .error e ∧ e.flaw.message = "recursion limit exceeded" := by
  obtain ⟨e, hread, hflaw⟩ := Json.read_pretty_too_deep h hd
  exact ⟨e, hread, by rw [hflaw]; rfl⟩

/-- If no label is a float or has one in it, the text of the inventory gives back all of its members
as long as containers stand at most 123 deep in every label in the table of hosts, and a reader gives
up on it otherwise. The text for a single host gives back its nine members, or none if nothing is
known of the host, as long as containers stand at most 126 deep in its labels. -/
theorem read_render (settings : Settings) (name : String)
    (hl : ∀ s ∈ sessions, ∀ label ∈ s.labels.toList, ∀ v ∈ label, v.Floatless ∧ v.Ordered) :
    let inventory := Inventory.ofSessions sessions settings.keyPath settings.user
    let listed := Json.read (render .list sessions settings)
    let shown := Json.read (render (.host name) sessions settings)
    ((∀ entry ∈ inventory.hostVars, ∀ v ∈ entry.2.labels.toList, v.nesting ≤ 123) →
      listed = .ok (.object inventory.members)) ∧
    ((∃ entry ∈ inventory.hostVars, ∃ v ∈ entry.2.labels.toList, 124 ≤ v.nesting) →
      ∃ e, listed = .error e ∧ e.flaw.message = "recursion limit exceeded") ∧
    (hostVars? name sessions = none → shown = .ok (.object [])) ∧
    ∀ vars, hostVars? name sessions = some vars →
      ((∀ v ∈ vars.labels.toList, v.nesting ≤ 126) → shown = .ok (.object vars.members)) ∧
      ((∃ v ∈ vars.labels.toList, 127 ≤ v.nesting) →
        ∃ e, shown = .error e ∧ e.flaw.message = "recursion limit exceeded") := by
  intro inventory listed shown
  have hlabels : ∀ vars ∈ addressable sessions, ∀ v ∈ vars.labels.toList, v.Floatless ∧ v.Ordered :=
    fun vars hv => forall_labels_of_mem_addressable hl ⟨.string "", .string ""⟩
      (fun _ _ => ⟨.whole _ _, .number _⟩) hv
  have hentries : ∀ entry ∈ inventory.hostVars, ∀ v ∈ entry.2.labels.toList,
      v.Floatless ∧ v.Ordered :=
    fun entry he => hlabels entry.2 (mem_addressable_of_mem_hostVars he)
  have hfloatless : inventory.document.Floatless :=
    Inventory.floatless_document fun entry he v hv => (hentries entry he v hv).1
  have harranged : inventory.document.arranged = .object inventory.members :=
    Inventory.arranged_document Inventory.sorted_hostVars
      fun entry he v hv => (hentries entry he v hv).2
  refine ⟨fun h => ?_, fun ⟨entry, he, v, hv, hd⟩ => ?_, fun h => ?_,
    fun vars h => ⟨fun hd => ?_, ?_⟩⟩
  · rw [← harranged]
    exact Json.read_pretty hfloatless (Inventory.nesting_document_le_iff.mpr h)
  · refine message_read_pretty hfloatless (Nat.lt_of_not_le fun hle => ?_)
    have := Inventory.nesting_document_le_iff.mp hle entry he v hv
    omega
  · show Json.read (render (.host name) sessions settings) = _
    rw [render_host_of_none h]
    exact Json.read_pretty (.object (List.forall_mem_nil _)) (by decide)
  · show Json.read (render (.host name) sessions settings) = _
    have hvars := hlabels vars (mem_addressable_of_hostVars? h)
    rw [render_host_of_some h, ← HostVars.arranged_document fun v hv => (hvars v hv).2]
    exact Json.read_pretty (HostVars.floatless_document fun v hv => (hvars v hv).1)
      (HostVars.nesting_document_le_iff.mpr hd)
  · rintro ⟨v, hv, hd⟩
    show ∃ e, Json.read (render (.host name) sessions settings) = .error e ∧ _
    have hvars := hlabels vars (mem_addressable_of_hostVars? h)
    rw [render_host_of_some h]
    refine message_read_pretty (HostVars.floatless_document fun v hv => (hvars v hv).1)
      (Nat.lt_of_not_le fun hle => ?_)
    have := HostVars.nesting_document_le_iff.mp hle v hv
    omega

/-- A session at a port of its own, with containers in a label. -/
def Session.nested : Session where
  host := some "gpu"
  port := some 2222
  labels := { Session.blank.labels with id := some (.object [("a", .array [.null])]) }

theorem read_render_nested :
    (∀ s ∈ [Session.nested], ∀ label ∈ s.labels.toList, ∀ v ∈ label, v.Floatless ∧ v.Ordered) ∧
    Json.read (render .list [.nested] ⟨"", "key", "root"⟩) =
      .ok (.object (Inventory.ofSessions [.nested] "key" "root").members) ∧
    Json.read (render (.host "gpu") [.nested] ⟨"", "key", "root"⟩) = .ok (.object [
      ("ansible_host", .string "gpu"),
      ("ansible_port", .number (.ofUInt16 2222)),
      ("consumer_id", .string ""),
      ("gpu_count", .number (.whole 1 (by decide))),
      ("gpu_type", .string ""),
      ("offer_id", .string ""),
      ("price_per_hour", .number (.whole 0 (by decide))),
      ("provider", .string ""),
      ("session_id", .object [("a", .array [.null])])]) := by
  have hfloatless : (Value.object [("a", .array [.null])]).Floatless :=
    .object (List.forall_mem_singleton.mpr (.array (List.forall_mem_singleton.mpr .null)))
  have hordered : (Value.object [("a", .array [.null])]).Ordered :=
    .object (List.pairwise_singleton _ _)
      (List.forall_mem_singleton.mpr (.array (List.forall_mem_singleton.mpr .null)))
  have hl : ∀ s ∈ [Session.nested], ∀ label ∈ s.labels.toList, ∀ v ∈ label,
      v.Floatless ∧ v.Ordered := by
    have hnone (v : Value) (hv : v ∈ (none : Option Value)) : v.Floatless ∧ v.Ordered :=
      absurd hv (Option.not_mem_none v)
    simp only [List.forall_mem_singleton, Session.nested, Session.blank, Labels.toList,
      List.forall_mem_cons]
    exact ⟨fun v hv => Option.some.inj hv ▸ ⟨hfloatless, hordered⟩, hnone, hnone, hnone, hnone, hnone,
      hnone⟩
  obtain ⟨hlist, -, -, hhost⟩ := read_render ⟨"", "key", "root"⟩ "gpu" hl
  exact ⟨hl, hlist (by decide), (hhost _ rfl).1 (by decide)⟩

end SessionInventory
