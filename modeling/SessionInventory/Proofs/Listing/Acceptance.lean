import SessionInventory.Listing
import SessionInventory.Proofs.Json.Documents

/-!
# Which bodies are accepted

With a status of success a body is accepted exactly if its text is a document, and the members that
are handed on are those that it spells (`receive_accepts_documents`). Any other body fails as one
that cannot be decoded, and no session is loaded from it.
-/

namespace SessionInventory

open Json (Value SpellsString SpellsMember SpellsValue SpellsDocument)

variable {status : Nat} {body : List UInt8}

theorem isSuccess_iff : isSuccess status = true ↔ 200 ≤ status ∧ status ≤ 299 := by
  rw [isSuccess, Bool.and_eq_true, decide_eq_true_eq, decide_eq_true_eq]

/-- With a status of success the body is read as an object. -/
theorem receive_answered (hs : isSuccess status = true) (address : Address) :
    (receive address (.answered status body)).2 =
      match Json.readObject (bodyText status body) with
      | .ok members => .ok members
      | .error e => .error (.decode ⟨e.message, []⟩) := by
  simp only [receive, if_pos hs]
  cases Json.readObject (bodyText status body) <;> rfl

theorem receive_ok_iff (hs : isSuccess status = true) (address : Address) {members : Table Value} :
    (receive address (.answered status body)).2 = .ok members ↔
      SpellsDocument (bodyText status body).toList members := by
  rw [receive_answered hs, ← Json.readObject_iff]
  cases Json.readObject (bodyText status body) with
  | error e => simp
  | ok ms => simp

/-- With a status of success there is nothing to report of a body that is a document. -/
theorem receive_of_spells {members : Table Value} (hs : isSuccess status = true)
    (hm : SpellsDocument (bodyText status body).toList members) (address : Address) :
    receive address (.answered status body) = ([], .ok members) := by
  simp only [receive, if_pos hs, Json.readObject_iff.mpr hm]

theorem receive_of_not_spells (hs : isSuccess status = true)
    (hn : ¬∃ members, SpellsDocument (bodyText status body).toList members) (address : Address) :
    ∃ flaw report, receive address (.answered status body) =
      ([.bodyUnreadable flaw (bodyText status body)], .error (.decode report)) := by
  cases hr : Json.readObject (bodyText status body) with
  | ok members => exact absurd ⟨members, Json.readObject_iff.mp hr⟩ hn
  | error flaw => exact ⟨flaw, ⟨flaw.message, []⟩, by simp only [receive, if_pos hs, hr]⟩

theorem receive_undecodable (hs : isSuccess status = true) (address : Address)
    (hn : ¬∃ members, SpellsDocument (bodyText status body).toList members) :
    ∃ report, (receive address (.answered status body)).2 = .error (.decode report) := by
  obtain ⟨flaw, report, hr⟩ := receive_of_not_spells hs hn address
  exact ⟨report, by rw [hr]⟩

namespace Service

variable (service : Service) {exchange : Exchange}

/-- If an exchange fails for the address that is asked, so does the fetch. -/
theorem fetch_of_receive_error {destination : Destination} {e : FetchError}
    (hd : service.destination = .ok destination)
    (he : (receive destination.address exchange).2 = .error e) :
    (service.fetch exchange).2 = .error e := by
  cases hr : receive destination.address exchange with
  | mk events result =>
    rw [hr] at he
    obtain rfl : result = .error e := he
    simp only [fetch, hd, hr]

/-- An exchange that fails for every address fails for the one that is asked, if there is one. -/
theorem exists_fetch_error (he : ∀ address, ∃ e, (receive address exchange).2 = .error e) :
    ∃ e, (service.fetch exchange).2 = .error e := by
  cases hd : service.destination with
  | error e => exact ⟨e, by simp only [fetch, hd]⟩
  | ok destination =>
    obtain ⟨e, he⟩ := he destination.address
    exact ⟨e, service.fetch_of_receive_error hd he⟩

/-- If the fetch fails, that is reported, and nothing is loaded. -/
theorem load_of_fetch_error {events : List Event} {e : FetchError}
    (h : service.fetch exchange = (events, .error e)) :
    service.load exchange = (events ++ [.fetchFailed e], []) := by
  rw [load, h]

theorem sessions_of_fetch_error {e : FetchError} (he : (service.fetch exchange).2 = .error e) :
    (service.load exchange).2 = [] := by
  cases hr : service.fetch exchange with
  | mk events result =>
    rw [hr] at he
    obtain rfl : result = .error e := he
    rw [service.load_of_fetch_error hr]

/-- Nothing is loaded from an exchange that fails for every address. -/
theorem load_of_receive_error (he : ∀ address, ∃ e, (receive address exchange).2 = .error e) :
    (service.load exchange).2 = [] := by
  obtain ⟨e, hf⟩ := service.exists_fetch_error he
  exact service.sessions_of_fetch_error hf

end Service

/-- With a status of success the members of a body are those that its text spells as a document, and
a body whose text spells none cannot be decoded and yields no session. -/
theorem receive_accepts_documents (hs : 200 ≤ status ∧ status ≤ 299) (body : List UInt8)
    (address : Address) :
    (∀ members, (receive address (.answered status body)).2 = .ok members ↔
      SpellsDocument (bodyText status body).toList members) ∧
    ((¬∃ members, SpellsDocument (bodyText status body).toList members) →
      (∃ report, (receive address (.answered status body)).2 = .error (.decode report)) ∧
      ∀ service : Service, (service.load (.answered status body)).2 = [] ∧
        ∀ destination, service.destination = .ok destination →
          ∃ report, (service.fetch (.answered status body)).2 = .error (.decode report)) := by
  have hsuccess : isSuccess status = true := by
    rw [isSuccess, decide_eq_true hs.1, decide_eq_true hs.2, Bool.and_self]
  refine ⟨fun members => receive_ok_iff hsuccess address,
    fun hn => ⟨receive_undecodable hsuccess address hn, fun service => ⟨?_, ?_⟩⟩⟩
  · refine service.load_of_receive_error fun other => ?_
    obtain ⟨report, hr⟩ := receive_undecodable hsuccess other hn
    exact ⟨_, hr⟩
  · intro destination hd
    obtain ⟨report, hr⟩ := receive_undecodable hsuccess destination.address hn
    exact ⟨report, service.fetch_of_receive_error hd hr⟩

/-- Of two members with one name the last is handed on. -/
theorem receive_repeated_name :
    (200 ≤ 200 ∧ 200 ≤ 299) ∧
    (receive ⟨"http", none, "/", none, none⟩
      (.answered 200 (Utf8.encode "\x7b\"a\":null,\"a\":[]\x7d"))).2 = .ok [("a", .array [])] := by
  have hname : SpellsString ['"', 'a', '"'] "a" :=
    .mk (.cons (.plain (by decide) (by decide) (by decide)) .nil)
  have hfirst : SpellsMember SpellsValue ['"', 'a', '"', ':', 'n', 'u', 'l', 'l'] 0 ("a", .null) :=
    .mk hname .nil .nil .null
  have hlast : SpellsMember SpellsValue ['"', 'a', '"', ':', '[', ']'] 1 ("a", .array []) :=
    .mk hname .nil .nil (.emptyArray .nil)
  have hobject := SpellsValue.object (.more .nil hfirst .nil (.one .nil hlast .nil))
    (Table.sorted_ofList _) (Table.find?_ofList _)
  refine ⟨by decide, ((receive_accepts_documents (by decide) _ _).1 _).mpr ?_⟩
  exact ⟨[], _, [], 2, .nil, hobject, by decide, .nil, by decide⟩

end SessionInventory
