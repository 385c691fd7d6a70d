import SessionInventory.Proofs.Inventory.Lookup
import SessionInventory.Proofs.Session.Labelled

/-!
# Where a label is shown

A label of an addressable session is written on a line of its own, under the name that the variables
of a host have for it, and nothing else in the text depends on it (`showsLabel`): neither in the
inventory of the session nor in the answer about its host.
-/

namespace SessionInventory

open Json

/-! ## Members on their lines -/

/-- Whether a text that depends on a value is fixed but for one line, on which the value is written
under a name. -/
def Shows (name : String) (text : Value → List Char) : Prop :=
  ∃ level front back, ∀ v, text v = front ++ memberLine level (name, v) ++ back

theorem exists_writePretty_object (level : Nat) (ms ns : List (String × Value)) (name : String) :
    ∃ front back, ∀ v, (Value.object (ms ++ (name, v) :: ns)).writePretty level =
      front ++ memberLine (level + 1) (name, v) ++ back := by
  cases ms with
  | nil =>
    refine ⟨'{' :: newline (level + 1), writeMemberLines (level + 1) ns ++ newline level ++ ['}'],
      fun v => ?_⟩
    rw [List.nil_append, Value.writePretty, memberLine]
    simp only [List.append_assoc, List.cons_append]
  | cons m ms =>
    refine ⟨'{' :: newline (level + 1) ++ memberLine (level + 1) m ++
      writeMemberLines (level + 1) ms ++ ',' :: newline (level + 1),
      writeMemberLines (level + 1) ns ++ newline level ++ ['}'], fun v => ?_⟩
    obtain ⟨k, w⟩ := m
    rw [List.cons_append, Value.writePretty]
    simp only [writeMemberLines_eq_flatMap, List.flatMap_append, List.flatMap_cons, memberLine,
      List.append_assoc, List.cons_append]

theorem shows_object (level : Nat) (ms ns : List (String × Value)) (name : String) :
    Shows name fun v => (Value.object (ms ++ (name, v) :: ns)).writePretty level := by
  obtain ⟨front, back, h⟩ := exists_writePretty_object level ms ns name
  exact ⟨level + 1, front, back, h⟩

/-- What is shown in a member is shown in the object. -/
theorem Shows.object {name : String} {fill : Value → Value} {level : Nat}
    (h : Shows name fun v => (fill v).writePretty (level + 1)) (ms ns : List (String × Value))
    (key : String) :
    Shows name fun v => (Value.object (ms ++ (key, fill v) :: ns)).writePretty level := by
  obtain ⟨inner, front, back, hfill⟩ := h
  obtain ⟨before, after, hobject⟩ := exists_writePretty_object level ms ns key
  refine ⟨inner, before ++ (writeString key ++ ':' :: ' ' :: front), back ++ after, fun v => ?_⟩
  simp only [hobject, memberLine, hfill, List.append_assoc, List.cons_append]

/-! ## Labels among the variables of a host -/

/-- The name that the variables of a host have for a label. -/
def shownName (name : String) : String :=
  if name = Labels.names.id then "session_id" else name

theorem Labels.effective_put (l : Labels (Option Value)) (name : String) (v : Value) :
    (l.put name (some v)).effective = l.effective.put name v := by
  have hlabel (p : Prop) [Decidable p] (label : Option Value) (d : Value) :
      (if p then some v else label).getD d = if p then v else label.getD d := by
    split <;> rfl
  simp only [Labels.put, Labels.effective, hlabel]

/-- Every label is one of the variables, and the others do not depend on it. -/
theorem exists_document_put (endpoint : Endpoint) (labels : Labels Value) {name : String}
    (h : name ∈ Labels.names.toList) : ∃ ms ns, ∀ v,
      HostVars.document ⟨endpoint, labels.put name v⟩ = .object (ms ++ (shownName name, v) :: ns) := by
  simp only [Labels.toList, List.mem_cons, List.not_mem_nil, or_false] at h
  rcases h with rfl | rfl | rfl | rfl | rfl | rfl | rfl
  all_goals
    simp only [HostVars.document, Labels.put, Labels.names, shownName, String.reduceEq, if_true,
      if_false, Value.object.injEq]
  · exact ⟨[_, _], _, fun v => rfl⟩
  · exact ⟨[_, _, _, _, _, _, _, _], _, fun v => rfl⟩
  · exact ⟨[_, _, _], _, fun v => rfl⟩
  · exact ⟨[_, _, _, _, _, _, _], _, fun v => rfl⟩
  · exact ⟨[_, _, _, _], _, fun v => rfl⟩
  · exact ⟨[_, _, _, _, _], _, fun v => rfl⟩
  · exact ⟨[_, _, _, _, _, _], _, fun v => rfl⟩

/-! ## Answers about one session -/

/-- Whether a request is about an endpoint: it asks for all hosts, or for the one at the endpoint, by
its key or by its bare name. -/
def Endpoint.Answers (e : Endpoint) : Request → Prop
  | .list => True
  | .host name => e.key = name ∨ e.host = name

section

variable {s : Session} {e : Endpoint} (he : s.endpoint? = some e) {name : String}
  (h : name ∈ Labels.names.toList) (settings : Settings)

include he

theorem addressable_relabel (name : String) (v : Value) :
    addressable [s.relabel name v] = [⟨e, s.labels.effective.put name v⟩] := by
  have hvars : (s.relabel name v).hostVars? = some ⟨e, s.labels.effective.put name v⟩ := by
    refine Session.hostVars?_eq_some_iff.mpr ⟨he, ?_⟩
    exact (Labels.effective_put s.labels name v).symm
  rw [addressable, List.filterMap_cons_some hvars, List.filterMap_nil]

include h

/-- The inventory of a session shows each of its labels. -/
theorem showsLabel_list : Shows (shownName name) fun v =>
    (render .list [s.relabel name v] settings).toList := by
  obtain ⟨ms, ns, hdocument⟩ := exists_document_put e s.labels.effective h
  let nodes : Value := .object [("hosts", .array [.string e.key]),
    ("vars", (GroupVars.mk settings.user settings.keyPath unpinnedHostKeys).document)]
  obtain ⟨level, front, back, hshown⟩ := (((shows_object 3 ms ns (shownName name)).object [] []
    e.key).object [] [] "hostvars").object [("benchmark_nodes", nodes)] [] "_meta"
  refine ⟨level, front, back, fun v => Eq.trans ?_ (hshown v)⟩
  have hanswer : answer .list [s.relabel name v] settings = .object [("benchmark_nodes", nodes),
      ("_meta", .object [("hostvars",
        .object [(e.key, HostVars.document ⟨e, s.labels.effective.put name v⟩)])])] := by
    rw [answer, Inventory.ofSessions, addressable_relabel he]
    rfl
  show (render .list [s.relabel name v] settings).toList = _
  rw [render, hanswer, hdocument, Value.pretty, String.toList_ofList]
  rfl

/-- So does the answer about its host, under each of its names. -/
theorem showsLabel_host {host : String} (hh : e.key = host ∨ e.host = host) :
    Shows (shownName name) fun v =>
      (render (.host host) [s.relabel name v] settings).toList := by
  obtain ⟨ms, ns, hdocument⟩ := exists_document_put e s.labels.effective h
  obtain ⟨level, front, back, hshown⟩ := shows_object 0 ms ns (shownName name)
  refine ⟨level, front, back, fun v => Eq.trans ?_ (hshown v)⟩
  have hanswers : hostVars? host [s.relabel name v] =
      some ⟨e, s.labels.effective.put name v⟩ := by
    rw [hostVars?, addressable_relabel he]
    exact List.find?_cons_of_pos (HostVars.answersTo_iff.mpr hh)
  show (render (.host host) [s.relabel name v] settings).toList = _
  rw [render_host_of_some hanswers, Value.pretty, String.toList_ofList, hdocument]

/-- Every request that a session answers is answered with its labels. -/
theorem showsLabel {request : Request} (hr : e.Answers request) : Shows (shownName name) fun v =>
    (render request [s.relabel name v] settings).toList := by
  cases request with
  | list => exact showsLabel_list he h settings
  | host host => exact showsLabel_host he h settings hr

end

end SessionInventory
