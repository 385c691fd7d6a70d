import Mathlib.Data.List.Basic
import SessionInventory.Proofs.Event
import SessionInventory.Proofs.Listing.Acceptance
import SessionInventory.Proofs.Session.Shapes

/-!
# The entries of a listing

Of the entries of a listing those that describe a session are loaded (`sessionsOf`) and the others
are skipped (`skippedFrom`), each with one warning that gives its place (`decodeEntries_eq`,
`filter_skips`). The places rise (`pairwise_skippedFrom`), and no entry is lost
(`length_sessionsOf_add`).

What is no object is skipped, unless it is an array of nine elements that begins with a host and a
port; such an array is loaded like an object (`fetch_nonobject_entries`,
`exists_session_of_array`).
-/

namespace SessionInventory

open Json (Value Mismatch SpellsDocument)

/-- The sessions that entries describe. -/
def sessionsOf (entries : List Value) : List Session :=
  entries.filterMap fun entry => (Session.ofValue entry).toOption

/-- Why an entry that stands at a place is skipped, if it is. -/
def skipped? (entry : Value) (index : Nat) : Option (Nat × Mismatch) :=
  match Session.ofValue entry with
  | .error m => some (index, m)
  | .ok _ => none

/-- The places of the entries that describe no session, counted from `index`, and why they do not. -/
def skippedFrom (index : Nat) (entries : List Value) : List (Nat × Mismatch) :=
  (entries.zipIdx index).filterMap fun (entry, i) => skipped? entry i

/-- The warning about a skipped entry. -/
def skipWarning (skip : Nat × Mismatch) : Event := .entrySkipped skip.1 skip.2

/-- Whether an event is a warning about the entry at a place. -/
def Event.skips (index : Nat) : Event → Bool
  | .entrySkipped i _ => i = index
  | _ => false

variable {index : Nat} {entry : Value} {entries : List Value}

section Cons

variable (index : Nat) (entries : List Value)

theorem sessionsOf_cons_ok {s : Session} (h : Session.ofValue entry = .ok s) :
    sessionsOf (entry :: entries) = s :: sessionsOf entries := by
  rw [sessionsOf, List.filterMap_cons_some (b := s) (by rw [h]; rfl)]
  rfl

theorem sessionsOf_cons_error {m : Mismatch} (h : Session.ofValue entry = .error m) :
    sessionsOf (entry :: entries) = sessionsOf entries := by
  rw [sessionsOf, List.filterMap_cons_none (by rw [h]; rfl)]
  rfl

theorem skippedFrom_cons_ok {s : Session} (h : Session.ofValue entry = .ok s) :
    skippedFrom index (entry :: entries) = skippedFrom (index + 1) entries := by
  rw [skippedFrom, List.zipIdx_cons, List.filterMap_cons_none (by simp only [skipped?, h])]
  rfl

theorem skippedFrom_cons_error {m : Mismatch} (h : Session.ofValue entry = .error m) :
    skippedFrom index (entry :: entries) = (index, m) :: skippedFrom (index + 1) entries := by
  rw [skippedFrom, List.zipIdx_cons,
    List.filterMap_cons_some (b := (index, m)) (by simp only [skipped?, h])]
  rfl

end Cons

/-- Decoding entries reports those that are skipped, and gives the sessions of the others. -/
theorem decodeEntries_eq (index : Nat) (entries : List Value) :
    decodeEntries index entries =
      ((skippedFrom index entries).map skipWarning, sessionsOf entries) := by
  induction entries generalizing index with
  | nil => rfl
  | cons entry rest ih =>
    rw [decodeEntries, ih]
    cases h : Session.ofValue entry with
    | error m => rw [skippedFrom_cons_error index rest h, sessionsOf_cons_error rest h]; rfl
    | ok s => rw [skippedFrom_cons_ok index rest h, sessionsOf_cons_ok rest h]

/-- What is written of entries that are skipped: a warning for each, with its place and with what is
wrong with it. -/
theorem map_entry_skipWarning (skips : List (Nat × Mismatch)) :
    (skips.map skipWarning).map Event.entry = skips.map fun (index, m) =>
      (.warn, "Skipping unreadable session entry",
        [("index", toString index), ("error", m.message)]) := by
  rw [List.map_map]
  exact List.map_congr_left fun (index, m) _ => Event.written_iff.mp (.entrySkipped index m)

/-- Every entry is loaded or skipped. -/
theorem length_sessionsOf_add (index : Nat) (entries : List Value) :
    (sessionsOf entries).length + (skippedFrom index entries).length = entries.length := by
  induction entries generalizing index with
  | nil => rfl
  | cons entry rest ih =>
    have hrest := ih (index + 1)
    cases h : Session.ofValue entry with
    | error m =>
      rw [skippedFrom_cons_error index rest h, sessionsOf_cons_error rest h, List.length_cons,
        List.length_cons]
      omega
    | ok s =>
      rw [skippedFrom_cons_ok index rest h, sessionsOf_cons_ok rest h, List.length_cons,
        List.length_cons]
      omega

/-! ## Places -/

theorem skipped?_eq_some_iff {skip : Nat × Mismatch} :
    skipped? entry index = some skip ↔ skip.1 = index ∧ Session.ofValue entry = .error skip.2 := by
  obtain ⟨i, m⟩ := skip
  rw [skipped?]
  cases Session.ofValue entry with
  | ok s => exact iff_of_false nofun nofun
  | error m' => simp [eq_comm]

theorem exists_zipIdx_of_mem_skippedFrom {skip : Nat × Mismatch}
    (h : skip ∈ skippedFrom index entries) : ∃ entry, (entry, skip.1) ∈ entries.zipIdx index := by
  obtain ⟨⟨entry, i⟩, hm, hs⟩ := List.mem_filterMap.mp h
  exact ⟨entry, (skipped?_eq_some_iff.mp hs).1 ▸ hm⟩

/-- An entry is skipped exactly if it describes no session. -/
theorem mem_skippedFrom_iff {m : Mismatch} : (index, m) ∈ skippedFrom 0 entries ↔
    ∃ entry, entries[index]? = some entry ∧ Session.ofValue entry = .error m := by
  simp only [skippedFrom, List.mem_filterMap, Prod.exists, skipped?_eq_some_iff,
    List.mk_mem_zipIdx_iff_getElem?]
  constructor
  · rintro ⟨entry, i, hm, rfl, he⟩
    exact ⟨entry, hm, he⟩
  · rintro ⟨entry, hm, he⟩
    exact ⟨entry, index, hm, rfl, he⟩

/-- Entries are skipped in the order of their places. -/
theorem pairwise_skippedFrom (index : Nat) (entries : List Value) :
    ((skippedFrom index entries).map (·.1)).Pairwise (· < ·) := by
  have hplaces : (entries.zipIdx index).Pairwise (·.2 < ·.2) := by
    refine List.pairwise_map.mp ?_
    rw [List.zipIdx_map_snd]
    exact List.pairwise_lt_range' 1
  refine List.pairwise_map.mpr (hplaces.filterMap _ fun a b hab skip hs other ho => ?_)
  rw [(skipped?_eq_some_iff.mp hs).1, (skipped?_eq_some_iff.mp ho).1]
  exact hab

theorem exists_of_mem_sessionsOf {s : Session} (h : s ∈ sessionsOf entries) :
    ∃ entry ∈ entries, Session.ofValue entry = .ok s := by
  obtain ⟨entry, hm, hs⟩ := List.mem_filterMap.mp h
  refine ⟨entry, hm, ?_⟩
  cases hv : Session.ofValue entry with
  | error m => rw [hv] at hs; cases hs
  | ok t => rw [hv] at hs; rw [Option.some.inj hs]

/-- Whether an entry is skipped depends on it and on its place, not on the entries around it. -/
theorem skippedFrom_split (index : Nat) (before : List Value) (entry : Value) (after : List Value) :
    skippedFrom index (before ++ entry :: after) = skippedFrom index before ++
      (skipped? entry (index + before.length)).toList ++
        skippedFrom (index + before.length + 1) after := by
  simp only [skippedFrom, List.zipIdx_append, List.zipIdx_cons, List.filterMap_append,
    List.filterMap_cons, List.append_assoc]
  cases skipped? entry (index + before.length) <;> rfl

theorem sessionsOf_append (before after : List Value) :
    sessionsOf (before ++ after) = sessionsOf before ++ sessionsOf after :=
  List.filterMap_append

theorem sessionsOf_split_ok {s : Session} (h : Session.ofValue entry = .ok s)
    (before after : List Value) :
    sessionsOf (before ++ entry :: after) = sessionsOf before ++ s :: sessionsOf after := by
  rw [sessionsOf_append, sessionsOf_cons_ok after h]

theorem sessionsOf_split_error {m : Mismatch} (h : Session.ofValue entry = .error m)
    (before after : List Value) :
    sessionsOf (before ++ entry :: after) = sessionsOf before ++ sessionsOf after := by
  rw [sessionsOf_append, sessionsOf_cons_error after h]

theorem filter_skips_eq_nil {place : Nat} (h : place < index ∨ index + entries.length ≤ place) :
    ((skippedFrom index entries).map skipWarning).filter (·.skips place) = [] := by
  simp only [List.filter_eq_nil_iff, List.forall_mem_map, skipWarning, Event.skips,
    decide_eq_true_eq]
  intro skip hs heq
  obtain ⟨other, hm⟩ := exists_zipIdx_of_mem_skippedFrom hs
  have hlow := List.le_snd_of_mem_zipIdx hm
  have hhigh := List.snd_lt_add_of_mem_zipIdx hm
  omega

/-- There is a warning about an entry if it is skipped, and no other with its place. -/
theorem filter_skips (before : List Value) (entry : Value) (after : List Value) :
    ((skippedFrom 0 (before ++ entry :: after)).map skipWarning).filter (·.skips before.length) =
      ((skipped? entry before.length).map skipWarning).toList := by
  rw [skippedFrom_split, Nat.zero_add, List.map_append, List.map_append, List.filter_append,
    List.filter_append, filter_skips_eq_nil (.inr (by omega)), filter_skips_eq_nil (.inl (by omega)),
    List.nil_append, List.append_nil]
  cases hs : skipped? entry before.length with
  | none => rfl
  | some skip =>
    have hplace : (skipWarning skip).skips before.length = true :=
      decide_eq_true (skipped?_eq_some_iff.mp hs).1
    exact List.filter_eq_self.mpr (List.forall_mem_singleton.mpr hplace)

/-! ## Listings -/

variable {service : Service} {destination : Destination} {exchange : Exchange} {status : Nat}
  {body : List UInt8} {members : Table Value}

/-- The entries of a listing are decoded in their order, and their sessions counted. -/
theorem listedSessions_of_entries (he : listedEntries members = .ok entries) :
    listedSessions members = ((skippedFrom 0 entries).map skipWarning ++
      [.sessionsFetched (sessionsOf entries).length], .ok (sessionsOf entries)) := by
  simp only [listedSessions, he, decodeEntries_eq]

/-- What is fetched and reported of a listing. -/
theorem fetch_of_entries (hd : service.destination = .ok destination)
    (hr : receive destination.address exchange = ([], .ok members))
    (he : listedEntries members = .ok entries) :
    service.fetch exchange = (.requestSent service.listingUrl ::
      ((skippedFrom 0 entries).map skipWarning ++ [.sessionsFetched (sessionsOf entries).length]),
      .ok (sessionsOf entries)) := by
  simp only [Service.fetch, hd, hr, listedSessions_of_entries he, List.singleton_append]

/-! ## Listings at hand -/

/-- The service as it is unless told otherwise. -/
def Service.standard : Service := .ofUrl Settings.defaultApiUrl Service.defaultTimeout

theorem Service.exists_destination_standard :
    ∃ destination, Service.standard.destination = .ok destination := by
  have h : Service.standard.destination.toOption.isSome = true := by decide +kernel
  cases hd : Service.standard.destination with
  | error e => rw [hd] at h; cases h
  | ok destination => exact ⟨destination, rfl⟩

/-- Whether members list sessions, and their entries are of a kind. -/
def listsWhere (kind : List Value → Bool) (members : Table Value) : Bool :=
  match members.find? "sessions" with
  | some (.array entries) => kind entries
  | _ => false

theorem exists_listing {text : String} {kind : List Value → Bool}
    (h : (Json.readObject text).toOption.any (listsWhere kind) = true) :
    ∃ members entries, SpellsDocument text.toList members ∧
      members.find? "sessions" = some (.array entries) ∧ kind entries = true := by
  cases hr : Json.readObject text with
  | error e => rw [hr] at h; cases h
  | ok members =>
    rw [hr] at h
    replace h : listsWhere kind members = true := h
    rw [listsWhere] at h
    split at h
    · rename_i hf
      exact ⟨members, _, Json.readObject_iff.mp hr, hf, h⟩
    · cases h

/-! ## Entries that are no objects -/

/-- Of a listing that is an array, the sessions are described by objects, or by arrays of nine
elements that begin with a host and a port. Any other entry that is no object is reported once, by a
warning with its place and with what is wrong with it, and leaves the sessions as they are without it;
such an array is not reported and adds a session. There are no warnings but those about entries. -/
theorem fetch_nonobject_entries (hs : 200 ≤ status ∧ status ≤ 299)
    (hd : service.destination = .ok destination)
    (hm : SpellsDocument (bodyText status body).toList members)
    (he : members.find? "sessions" = some (.array entries)) :
    let fetched := service.fetch (.answered status body)
    fetched.2 = .ok (sessionsOf entries) ∧
    (∀ s ∈ sessionsOf entries, ∃ entry ∈ entries, Session.ofValue entry = .ok s ∧
      (entry.isObject = true ∨ IsSessionArray entry)) ∧
    (∀ event ∈ fetched.1, event.severity = .warn → ∃ index m, event = .entrySkipped index m) ∧
    ∀ before entry after, entries = before ++ entry :: after → entry.isObject = false →
      (¬IsSessionArray entry → sessionsOf entries = sessionsOf (before ++ after) ∧
        ∃ m, fetched.1.filter (·.skips before.length) = [.entrySkipped before.length m] ∧
          (Event.entrySkipped before.length m).entry =
            (.warn, "Skipping unreadable session entry",
              [("index", toString before.length), ("error", m.message)])) ∧
      (IsSessionArray entry → fetched.1.filter (·.skips before.length) = [] ∧
        ∃ s, Session.ofValue entry = .ok s ∧
          sessionsOf entries = sessionsOf before ++ s :: sessionsOf after) := by
  intro fetched
  have hentries : listedEntries members = .ok entries := by simp only [listedEntries, he]
  have hfetched := fetch_of_entries hd (receive_of_spells (isSuccess_iff.mpr hs) hm _) hentries
  have hreported (place : Nat) : fetched.1.filter (·.skips place) =
      ((skippedFrom 0 entries).map skipWarning).filter (·.skips place) := by
    simp only [fetched, hfetched, List.filter_cons, List.filter_append, Event.skips,
      Bool.false_eq_true, if_false, List.filter_nil, List.append_nil]
  have hreports : fetched.1 = .requestSent service.listingUrl ::
      ((skippedFrom 0 entries).map skipWarning ++ [.sessionsFetched (sessionsOf entries).length]) :=
    congrArg Prod.fst hfetched
  refine ⟨congrArg Prod.snd hfetched, fun s hmem => ?_, fun event hevent hwarn => ?_,
    fun before entry after hsplit hn => ?_⟩
  · obtain ⟨entry, he, hv⟩ := exists_of_mem_sessionsOf hmem
    refine ⟨entry, he, hv, ?_⟩
    cases ho : entry.isObject with
    | true => exact .inl rfl
    | false => exact .inr ((Session.exists_ofValue_iff_of_not_object ho).mp ⟨s, hv⟩)
  · rcases Event.severity_eq_warn_iff.1.mp hwarn with hskipped | ⟨failure, rfl⟩
    · exact hskipped
    · simp [hreports, skipWarning] at hevent
  · subst hsplit
    have hdescribed := Session.exists_ofValue_iff_of_not_object hn
    rw [hreported, filter_skips, sessionsOf_append, sessionsOf_append]
    refine ⟨fun ha => ?_, fun ha => ?_⟩
    · cases hv : Session.ofValue entry with
      | ok s => exact absurd (hdescribed.mp ⟨s, hv⟩) ha
      | error m =>
        rw [sessionsOf_cons_error after hv, skipped?, hv]
        exact ⟨rfl, m, rfl, Event.written_iff.mp (.entrySkipped before.length m)⟩
    · obtain ⟨s, hv⟩ := hdescribed.mpr ha
      rw [sessionsOf_cons_ok after hv, skipped?, hv]
      exact ⟨rfl, s, rfl, rfl⟩

/-- A text, and an array of nine elements that begins with a host and no port. -/
def isTextThenArray : List Value → Bool
  | [.string _, .array (.string _ :: .null :: labels)] => labels.length = 7
  | _ => false

theorem exists_of_isTextThenArray (h : isTextThenArray entries = true) :
    ∃ text array, entries = [.string text, array] ∧ array.isObject = false ∧
      IsSessionArray array := by
  rw [isTextThenArray.eq_def] at h
  split at h
  · exact ⟨_, _, rfl, rfl, _, _, _, rfl, of_decide_eq_true h, .inr ⟨_, rfl⟩, .inl rfl⟩
  · cases h

/-- The body of an answer without a single object among its entries. -/
def objectless : List UInt8 :=
  Utf8.encode "\x7b\"sessions\":[\"gpu\",[\"gpu-9\",null,\"s9\",null,null,null,null,null,null]]\x7d"

theorem exists_listing_objectless :
    ∃ members entries, SpellsDocument (bodyText 200 objectless).toList members ∧
      members.find? "sessions" = some (.array entries) ∧ isTextThenArray entries = true :=
  exists_listing (by decide +kernel)

/-- The text is reported, and the array is fetched. -/
theorem fetch_objectless :
    (200 ≤ 200 ∧ 200 ≤ 299) ∧ ∃ s m,
      (Service.standard.fetch (.answered 200 objectless)).2 = .ok [s] ∧
      (Service.standard.fetch (.answered 200 objectless)).1.filter (·.skips 0) =
        [.entrySkipped 0 m] ∧
      (Service.standard.fetch (.answered 200 objectless)).1.filter (·.skips 1) = [] := by
  obtain ⟨destination, hd⟩ := Service.exists_destination_standard
  obtain ⟨members, entries, hm, he, hkind⟩ := exists_listing_objectless
  obtain ⟨text, array, rfl, ho, ha⟩ := exists_of_isTextThenArray hkind
  obtain ⟨hfetched, -, -, hentry⟩ := fetch_nonobject_entries (by decide) hd hm he
  obtain ⟨hrest, m, htext, -⟩ := (hentry [] (.string text) [array] rfl rfl).1 nofun
  obtain ⟨harray, s, -, hs⟩ := (hentry [.string text] array [] rfl ho).2 ha
  refine ⟨by decide, s, m, ?_, htext, harray⟩
  rw [hfetched, hs]
  rfl

/-- Not every entry that is no object is reported and left out: an array may be fetched as a
session. -/
theorem exists_session_of_array :
    ¬∀ (service : Service) (destination : Destination) (status : Nat) (body : List UInt8)
      (members : Table Value) (entries : List Value), 200 ≤ status ∧ status ≤ 299 →
      service.destination = .ok destination →
      SpellsDocument (bodyText status body).toList members →
      members.find? "sessions" = some (.array entries) →
      ∀ before entry after, entries = before ++ entry :: after → entry.isObject = false →
        sessionsOf entries = sessionsOf (before ++ after) ∧
        ∃ m, (service.fetch (.answered status body)).1.filter (·.skips before.length) =
          [.entrySkipped before.length m] := by
  intro h
  obtain ⟨destination, hd⟩ := Service.exists_destination_standard
  obtain ⟨members, entries, hm, he, hkind⟩ := exists_listing_objectless
  obtain ⟨text, array, rfl, ho, ha⟩ := exists_of_isTextThenArray hkind
  obtain ⟨hrest, -⟩ := h _ _ 200 _ _ _ (by decide) hd hm he [.string text] array [] rfl ho
  obtain ⟨s, hs⟩ := (Session.exists_ofValue_iff_of_not_object ho).mpr ha
  have hadded : sessionsOf [.string text, array] = sessionsOf [.string text] ++ [s] := by
    rw [← List.singleton_append, sessionsOf_append, sessionsOf_cons_ok [] hs]
    rfl
  rw [List.append_nil, hadded] at hrest
  exact absurd (congrArg List.length hrest) (by simp)

end SessionInventory
