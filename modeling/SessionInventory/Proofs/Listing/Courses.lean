import Mathlib.Data.List.Basic
import SessionInventory.Proofs.Listing.Entries

/-!
# How a load goes

A load goes one of four ways (`Course`). It gets no whole answer, or one without success; or the body
that it gets is no document; or the document lists no entries; or it does. `Course.Applies` says which
way it is from what came of the request alone, and `Course.Leaves` what is reported on that way, how
that is written, and which sessions come of it. What is written follows from the kinds of the reports
(`Event.map_entry_cons`, `map_entry_listed`). The reports tell the ways apart
(`Course.ofReports_of_leaves`), so a load reports what belongs to its way and never what belongs to
another (`load_leaves_course`).
-/

namespace SessionInventory

open Json (Value Mismatch SpellsDocument)
open Event (map_entry_cons)

/-- Members list entries: those of the array that they name, or none if they name nothing. -/
def Lists (members : Table Value) (entries : List Value) : Prop :=
  members.find? "sessions" = some (.array entries) ∨
    (members.find? "sessions" = none ∨ members.find? "sessions" = some .null) ∧ entries = []

/-- A service answers with success and with a text. -/
def Service.Succeeds (service : Service) (exchange : Exchange) (text : String) : Prop :=
  (∃ destination, service.destination = .ok destination) ∧
    ∃ status body, exchange = .answered status body ∧ (200 ≤ status ∧ status ≤ 299) ∧
      bodyText status body = text

/-- How a load goes. -/
inductive Course where
  /-- There is no answer, or one that breaks off or is without success. -/
  | unanswered
  /-- The body of the answer is no document. -/
  | unreadable
  /-- The document lists no entries. -/
  | unlisted
  /-- The document lists entries. -/
  | listed
  deriving DecidableEq

namespace Course

/-- What came of the request when a load goes a way. -/
def Applies (service : Service) (exchange : Exchange) : Course → Prop
  | unanswered => (∃ e, service.destination = .error e) ∨ (∃ causes, exchange = .broken causes) ∨
      (∃ report, exchange = .failed report) ∨
      ∃ status body, exchange = .answered status body ∧ ¬(200 ≤ status ∧ status ≤ 299)
  | unreadable => ∃ text, service.Succeeds exchange text ∧
      ¬∃ members, SpellsDocument text.toList members
  | unlisted => ∃ text members, service.Succeeds exchange text ∧
      SpellsDocument text.toList members ∧ ¬∃ entries, Lists members entries
  | listed => ∃ text members entries, service.Succeeds exchange text ∧
      SpellsDocument text.toList members ∧ Lists members entries

/-- What is written of a listing: that it is asked for, a warning for each entry that is skipped, and
twice the number of sessions. -/
def listingEntries (url : String) (skips : List (Nat × Mismatch)) (count : Nat) :
    List Event.Entry :=
  (.debug, "GET request", [("url", url)]) ::
    (skips.map (fun (index, m) => (.warn, "Skipping unreadable session entry",
      [("index", toString index), ("error", m.message)])) ++
    [(.debug, "Fetched running sessions", [("count", toString count)]),
      (.debug, "Loaded running sessions", [("count", toString count)])])

/-- What a load that goes a way reports, how that is written, and which sessions come of it. -/
def Leaves (url : String) (outcome : List Event × List Session) : Course → Prop
  | unanswered => ∃ e, outcome = ([.requestSent url, .fetchFailed e], []) ∧
      outcome.1.map Event.entry = [(.debug, "GET request", [("url", url)]),
        (.warn, "Could not connect to GPU Shopper API", [("error", e.explanation)])]
  | unreadable => ∃ flaw text e,
      outcome = ([.requestSent url, .bodyUnreadable flaw text, .fetchFailed e], []) ∧
      outcome.1.map Event.entry = [(.debug, "GET request", [("url", url)]),
        (.debug, "Failed to parse response", [("error", flaw.message), ("body", text)]),
        (.warn, "Invalid JSON response from GPU Shopper API", [("error", e.explanation)])]
  | unlisted => ∃ e, outcome = ([.requestSent url, .fetchFailed e], []) ∧
      outcome.1.map Event.entry = [(.debug, "GET request", [("url", url)]),
        (.warn, "Invalid JSON response from GPU Shopper API", [("error", e.explanation)])]
  | listed => ∃ (skips : List (Nat × Mismatch)) (sessions : List Session),
      (skips.map (·.1)).Pairwise (· < ·) ∧ outcome = (.requestSent url :: (skips.map skipWarning ++
        [.sessionsFetched sessions.length, .sessionsLoaded sessions.length]), sessions) ∧
      outcome.1.map Event.entry = listingEntries url skips sessions.length

end Course

theorem map_entry_listed (url : String) (skips : List (Nat × Mismatch)) (count : Nat) :
    (Event.requestSent url :: (skips.map skipWarning ++
      [.sessionsFetched count, .sessionsLoaded count])).map Event.entry =
      Course.listingEntries url skips count := by
  have hcounted : [Event.sessionsFetched count, .sessionsLoaded count].map Event.entry =
      [(.debug, "Fetched running sessions", [("count", toString count)]),
        (.debug, "Loaded running sessions", [("count", toString count)])] :=
    map_entry_cons (.sessionsFetched count) (map_entry_cons (.sessionsLoaded count) rfl)
  refine map_entry_cons (.requestSent url) ?_
  rw [List.map_append, map_entry_skipWarning, hcounted]

/-! ## Reports tell the ways apart -/

/-- The way that reports tell of. -/
def Course.ofReports : List Event → Course
  | [_, .fetchFailed e] => if e.isDecode then unlisted else unanswered
  | [_, .bodyUnreadable .., .fetchFailed _] => unreadable
  | _ => listed

/-- The reports of a failed fetch end with its wording. -/
theorem message_of_map_entry {first : Event} {e : FetchError} {a b : Event.Entry}
    (h : [first, .fetchFailed e].map Event.entry = [a, b]) :
    (Event.fetchFailed e).message = b.2.1 := by
  have hlast : (Event.fetchFailed e).entry = b := (List.cons.inj (List.cons.inj h).2).1
  exact congrArg (·.2.1) hlast

theorem Course.ofReports_of_leaves {course : Course} {url : String}
    {outcome : List Event × List Session} (h : course.Leaves url outcome) :
    ofReports outcome.1 = course := by
  cases course with
  | unanswered =>
    obtain ⟨e, rfl, hm⟩ := h
    have hmessage : (Event.fetchFailed e).message = "Could not connect to GPU Shopper API" :=
      message_of_map_entry hm
    refine if_neg fun hd => ?_
    exact absurd ((message_of_isDecode hd).symm.trans hmessage) (by decide)
  | unreadable =>
    obtain ⟨flaw, text, e, rfl, -⟩ := h
    rfl
  | unlisted =>
    obtain ⟨e, rfl, hm⟩ := h
    exact if_pos (isDecode_iff_message.mpr (message_of_map_entry hm))
  | listed =>
    obtain ⟨skips, sessions, -, rfl, -⟩ := h
    cases skips with
    | nil => rfl
    | cons skip rest => cases rest <;> rfl

/-! ## Each way leaves what belongs to it -/

variable {service : Service} {destination : Destination} {exchange : Exchange} {status : Nat}
  {body : List UInt8} {events : List Event} {e : FetchError}

/-- A request that cannot be sent does not fail for what came back. -/
theorem isDecode_of_destination (h : service.destination = .error e) : e.isDecode = false := by
  rw [Service.destination] at h
  split at h
  · cases h
    rfl
  · dsimp only at h
    split at h
    · cases h
      rfl
    · split at h
      · cases h
        rfl
      · cases h

theorem load_of_destination_error (h : service.destination = .error e) :
    service.load exchange = ([.requestSent service.listingUrl, .fetchFailed e], []) := by
  have hfetch : service.fetch exchange = ([.requestSent service.listingUrl], .error e) := by
    rw [Service.fetch, h]
  exact service.load_of_fetch_error hfetch

theorem load_of_receive_eq_error (hd : service.destination = .ok destination)
    (hr : receive destination.address exchange = (events, .error e)) :
    service.load exchange =
      (.requestSent service.listingUrl :: (events ++ [.fetchFailed e]), []) := by
  have hfetch : service.fetch exchange = (.requestSent service.listingUrl :: events, .error e) := by
    simp only [Service.fetch, hd, hr]
  exact service.load_of_fetch_error hfetch

theorem load_of_listedSessions_error {members : Table Value}
    (hd : service.destination = .ok destination)
    (hr : receive destination.address exchange = ([], .ok members))
    (hl : listedSessions members = ([], .error e)) :
    service.load exchange = ([.requestSent service.listingUrl, .fetchFailed e], []) := by
  have hfetch : service.fetch exchange = ([.requestSent service.listingUrl], .error e) := by
    simp only [Service.fetch, hd, hr, hl, List.append_nil]
  exact service.load_of_fetch_error hfetch

/-- Without an answer, or with one that breaks off or is without success, the request failed, and not
for what its body says. -/
theorem receive_of_unanswered (h : (∃ causes, exchange = .broken causes) ∨
      (∃ report, exchange = .failed report) ∨
      ∃ status body, exchange = .answered status body ∧ ¬(200 ≤ status ∧ status ≤ 299))
    (address : Address) :
    ∃ e, receive address exchange = ([], .error e) ∧ e.isDecode = false := by
  rcases h with ⟨causes, rfl⟩ | ⟨report, rfl⟩ | ⟨status, body, rfl, hs⟩
  · exact ⟨_, rfl, rfl⟩
  · exact ⟨_, rfl, rfl⟩
  · exact ⟨_, if_neg (mt isSuccess_iff.mp hs), rfl⟩

theorem lists_of_listedEntries {members : Table Value} {entries : List Value}
    (h : listedEntries members = .ok entries) : Lists members entries := by
  rw [listedEntries] at h
  split at h
  case h_1 hf => exact .inr ⟨.inl hf, (Except.ok.inj h).symm⟩
  case h_2 hf => exact .inr ⟨.inr hf, (Except.ok.inj h).symm⟩
  case h_3 hf => exact .inl (Except.ok.inj h ▸ hf)
  case h_4 => cases h

theorem listedEntries_of_lists {members : Table Value} {entries : List Value}
    (h : Lists members entries) : listedEntries members = .ok entries := by
  rcases h with hf | ⟨hf | hf, rfl⟩
  all_goals simp only [listedEntries, hf]

theorem listedSessions_of_not_lists {members : Table Value}
    (h : ¬∃ entries, Lists members entries) :
    ∃ report, listedSessions members = ([], .error (.decode report)) := by
  cases hl : listedEntries members with
  | ok entries => exact absurd ⟨entries, lists_of_listedEntries hl⟩ h
  | error m => exact ⟨⟨m.message, []⟩, by simp only [listedSessions, hl]⟩

/-- What a load reports of a listing. -/
theorem load_of_entries {members : Table Value} {entries : List Value}
    (hd : service.destination = .ok destination)
    (hr : receive destination.address exchange = ([], .ok members))
    (he : listedEntries members = .ok entries) :
    service.load exchange = (.requestSent service.listingUrl ::
      ((skippedFrom 0 entries).map skipWarning ++ [.sessionsFetched (sessionsOf entries).length,
        .sessionsLoaded (sessionsOf entries).length]), sessionsOf entries) := by
  rw [Service.load, fetch_of_entries hd hr he]
  simp only [List.cons_append, List.append_assoc, List.nil_append]

theorem Course.leaves_of_applies {course : Course} (h : course.Applies service exchange) :
    course.Leaves service.listingUrl (service.load exchange) := by
  cases course with
  | unanswered =>
    have hfailed : ∃ e, service.load exchange =
        ([.requestSent service.listingUrl, .fetchFailed e], []) ∧ e.isDecode = false := by
      cases hd : service.destination with
      | error e => exact ⟨e, load_of_destination_error hd, isDecode_of_destination hd⟩
      | ok destination =>
        have hx := h.resolve_left fun ⟨e, he⟩ => by rw [hd] at he; cases he
        obtain ⟨e, hr, hdecode⟩ := receive_of_unanswered hx destination.address
        exact ⟨e, load_of_receive_eq_error hd hr, hdecode⟩
    obtain ⟨e, hload, hdecode⟩ := hfailed
    rw [hload]
    exact ⟨e, rfl, map_entry_cons (.requestSent _) (map_entry_cons (.notConnected hdecode) rfl)⟩
  | unreadable =>
    obtain ⟨text, ⟨⟨destination, hd⟩, status, body, rfl, hs, rfl⟩, hn⟩ := h
    obtain ⟨flaw, report, hr⟩ := receive_of_not_spells (isSuccess_iff.mpr hs) hn destination.address
    rw [load_of_receive_eq_error hd hr]
    exact ⟨flaw, _, _, rfl, map_entry_cons (.requestSent _)
      (map_entry_cons (.bodyUnreadable flaw _) (map_entry_cons (.answerInvalid rfl) rfl))⟩
  | unlisted =>
    obtain ⟨text, members, ⟨⟨destination, hd⟩, status, body, rfl, hs, rfl⟩, hm, hn⟩ := h
    have hr := receive_of_spells (isSuccess_iff.mpr hs) hm destination.address
    obtain ⟨report, hl⟩ := listedSessions_of_not_lists hn
    rw [load_of_listedSessions_error hd hr hl]
    exact ⟨_, rfl, map_entry_cons (.requestSent _) (map_entry_cons (.answerInvalid rfl) rfl)⟩
  | listed =>
    obtain ⟨text, members, entries, ⟨⟨destination, hd⟩, status, body, rfl, hs, rfl⟩, hm, he⟩ := h
    have hr := receive_of_spells (isSuccess_iff.mpr hs) hm destination.address
    rw [load_of_entries hd hr (listedEntries_of_lists he)]
    exact ⟨skippedFrom 0 entries, sessionsOf entries, pairwise_skippedFrom 0 entries, rfl,
      map_entry_listed _ _ _⟩

/-- A load goes one way or another. -/
theorem Course.exists_applies (service : Service) (exchange : Exchange) :
    ∃ course : Course, course.Applies service exchange := by
  cases hd : service.destination with
  | error e => exact ⟨unanswered, .inl ⟨e, hd⟩⟩
  | ok destination =>
    cases exchange with
    | broken causes => exact ⟨unanswered, .inr (.inl ⟨causes, rfl⟩)⟩
    | failed report => exact ⟨unanswered, .inr (.inr (.inl ⟨report, rfl⟩))⟩
    | answered status body =>
      by_cases hs : 200 ≤ status ∧ status ≤ 299
      · have hsucceeds : service.Succeeds (.answered status body) (bodyText status body) :=
          ⟨⟨destination, hd⟩, status, body, rfl, hs, rfl⟩
        by_cases hm : ∃ members, SpellsDocument (bodyText status body).toList members
        · obtain ⟨members, hm⟩ := hm
          by_cases he : ∃ entries, Lists members entries
          · obtain ⟨entries, he⟩ := he
            exact ⟨listed, _, members, entries, hsucceeds, hm, he⟩
          · exact ⟨unlisted, _, members, hsucceeds, hm, he⟩
        · exact ⟨unreadable, _, hsucceeds, hm⟩
      · exact ⟨unanswered, .inr (.inr (.inr ⟨status, body, rfl, hs⟩))⟩

/-- A load leaves what belongs to one way, and it is the way that what came of the request says. Of a
listing it loads the sessions that the entries describe, in their order, counts them twice, and
warns of each other entry once, in the order of their places. -/
theorem load_leaves_course (service : Service) (exchange : Exchange) :
    let outcome := service.load exchange
    (∃! course : Course, course.Leaves service.listingUrl outcome) ∧
    (∀ course : Course, course.Leaves service.listingUrl outcome ↔
      course.Applies service exchange) ∧
    ∀ text members entries, service.Succeeds exchange text → SpellsDocument text.toList members →
      Lists members entries → ∃ (skips : List (Nat × Mismatch)) (sessions : List Session),
        outcome = (.requestSent service.listingUrl :: (skips.map skipWarning ++
          [.sessionsFetched sessions.length, .sessionsLoaded sessions.length]), sessions) ∧
        outcome.1.map Event.entry =
          Course.listingEntries service.listingUrl skips sessions.length ∧
        sessions = entries.filterMap (fun entry => (Session.ofValue entry).toOption) ∧
        (skips.map (·.1)).Pairwise (· < ·) ∧
        (∀ index m, (index, m) ∈ skips ↔
          ∃ entry, entries[index]? = some entry ∧ Session.ofValue entry = .error m) ∧
        sessions.length + skips.length = entries.length := by
  intro outcome
  obtain ⟨course, happlies⟩ := Course.exists_applies service exchange
  have hleaves : course.Leaves service.listingUrl outcome := Course.leaves_of_applies happlies
  have hunique : ∀ other : Course, other.Leaves service.listingUrl outcome → other = course :=
    fun other ho => (Course.ofReports_of_leaves ho).symm.trans (Course.ofReports_of_leaves hleaves)
  refine ⟨⟨course, hleaves, hunique⟩, fun other => ⟨fun ho => ?_, Course.leaves_of_applies⟩, ?_⟩
  · rw [hunique other ho]
    exact happlies
  · rintro text members entries ⟨⟨destination, hd⟩, status, body, rfl, hs, rfl⟩ hm he
    have hr := receive_of_spells (isSuccess_iff.mpr hs) hm destination.address
    have hload : outcome = _ := load_of_entries hd hr (listedEntries_of_lists he)
    rw [hload]
    exact ⟨skippedFrom 0 entries, sessionsOf entries, rfl, map_entry_listed _ _ _, rfl,
      pairwise_skippedFrom 0 entries, fun _ _ => mem_skippedFrom_iff,
      length_sessionsOf_add 0 entries⟩

/-- Of a text and an array the text is reported, and the array is loaded. -/
theorem load_objectless : ∃ text members entries,
    Service.standard.Succeeds (.answered 200 objectless) text ∧
    SpellsDocument text.toList members ∧ Lists members entries ∧ ∃ m s,
      Service.standard.load (.answered 200 objectless) =
        ([.requestSent Service.standard.listingUrl, .entrySkipped 0 m, .sessionsFetched 1,
          .sessionsLoaded 1], [s]) := by
  obtain ⟨members, entries, hm, hf, hkind⟩ := exists_listing_objectless
  obtain ⟨text, array, rfl, ho, ha⟩ := exists_of_isTextThenArray hkind
  have hsucceeds : Service.standard.Succeeds (.answered 200 objectless) (bodyText 200 objectless) :=
    ⟨Service.exists_destination_standard, 200, objectless, rfl, by decide, rfl⟩
  obtain ⟨s, hs⟩ := (Session.exists_ofValue_iff_of_not_object ho).mpr ha
  obtain ⟨skips, sessions, hload, -, hsessions, -, hskips, hlength⟩ :=
    (load_leaves_course Service.standard (.answered 200 objectless)).2.2 _ _ _ hsucceeds hm (.inl hf)
  refine ⟨_, members, _, hsucceeds, hm, .inl hf, ?_⟩
  obtain rfl : sessions = [s] := hsessions.trans (sessionsOf_cons_ok [] hs)
  obtain ⟨⟨index, m⟩, rfl⟩ := List.length_eq_one_iff.mp (Nat.add_left_cancel hlength)
  obtain ⟨entry, hentry, he⟩ := (hskips index m).mp List.mem_cons_self
  match index with
  | 0 => exact ⟨m, s, hload⟩
  | 1 =>
    obtain rfl : array = entry := Option.some.inj hentry
    cases hs.symm.trans he

end SessionInventory
