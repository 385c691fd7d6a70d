import SessionInventory.Proofs.Json.Respelling
import SessionInventory.Proofs.Listing.Entries
import SessionInventory.Run

/-!
# Answers that are spelled differently

A run depends on an answer through what is received of it (`run_congr`), and of a document that is
its members. So a run cannot tell a body from one that spells the same document with other blanks,
or with the members of its objects in another order (`run_of_respelled`): it loads the same sessions
or fails alike, reports the same, and prints the same.
-/

namespace SessionInventory

open Json (Value Blank SpellsDocument Respells RespellsDocument)

/-! ## What a run depends on -/

section

variable {exchange other : Exchange}

theorem Service.fetch_congr (h : ∀ address, receive address other = receive address exchange)
    (service : Service) : service.fetch other = service.fetch exchange := by
  simp only [fetch, h]

theorem Service.load_congr (h : ∀ address, receive address other = receive address exchange)
    (service : Service) : service.load other = service.load exchange := by
  simp only [load, service.fetch_congr h]

theorem inventoryRun_congr (h : ∀ address, receive address other = receive address exchange)
    (request : Request) (settings : Settings) :
    inventoryRun request settings (.made other) = inventoryRun request settings (.made exchange) := by
  simp only [inventoryRun, Service.loadVia, Service.load_congr h]

/-- Runs that receive the same are the same. -/
theorem run_congr (h : ∀ address, receive address other = receive address exchange)
    (arguments : List (List UInt8)) (environment : Environment) :
    run arguments environment (.made other) = run arguments environment (.made exchange) := by
  simp only [run, runWith, inventoryRun_congr h]

end

/-! ## Documents that respell one another -/

section

variable {status : Nat} {body other : List UInt8} {members : Table Value}

theorem receive_of_respelled (hs : isSuccess status = true)
    (hm : SpellsDocument (bodyText status body).toList members)
    (hr : RespellsDocument (bodyText status body).toList (bodyText status other).toList)
    (address : Address) :
    receive address (.answered status other) = receive address (.answered status body) := by
  rw [receive_of_spells hs hm, receive_of_spells hs (hr.spells hm)]

/-- A document is fetched as sessions, or cannot be decoded. -/
theorem Service.fetch_document (hs : isSuccess status = true)
    (hm : SpellsDocument (bodyText status body).toList members) {service : Service}
    {destination : Destination} (hd : service.destination = .ok destination) :
    (∃ sessions, (service.fetch (.answered status body)).2 = .ok sessions) ∨
      ∃ report, (service.fetch (.answered status body)).2 = .error (.decode report) := by
  have hfetch : (service.fetch (.answered status body)).2 = (listedSessions members).2 := by
    simp only [fetch, hd, receive_of_spells hs hm]
  rw [hfetch, listedSessions]
  cases listedEntries members with
  | error m => exact .inr ⟨⟨m.message, []⟩, rfl⟩
  | ok entries => exact .inl ⟨_, rfl⟩

/-- With a status of success, of two bodies that differ at most in blanks, in the order of members
and in how names and scalars are written, and one of which is a document, the same is fetched and
loaded, with the same reports, and every run prints and reports the same. -/
theorem run_of_respelled (hs : 200 ≤ status ∧ status ≤ 299)
    (hm : SpellsDocument (bodyText status body).toList members)
    (hr : RespellsDocument (bodyText status body).toList (bodyText status other).toList) :
    SpellsDocument (bodyText status other).toList members ∧
    (∀ service : Service,
      service.fetch (.answered status other) = service.fetch (.answered status body) ∧
      service.load (.answered status other) = service.load (.answered status body) ∧
      ∀ destination, service.destination = .ok destination →
        (∃ sessions, (service.fetch (.answered status body)).2 = .ok sessions) ∨
          ∃ report, (service.fetch (.answered status body)).2 = .error (.decode report)) ∧
    (∀ request settings, inventoryRun request settings (.made (.answered status other)) =
      inventoryRun request settings (.made (.answered status body))) ∧
    ∀ arguments environment, run arguments environment (.made (.answered status other)) =
      run arguments environment (.made (.answered status body)) := by
  have hsuccess : isSuccess status = true := isSuccess_iff.mpr hs
  have hreceive := receive_of_respelled hsuccess hm hr
  exact ⟨hr.spells hm,
    fun service => ⟨service.fetch_congr hreceive, service.load_congr hreceive,
      fun destination hd => Service.fetch_document hsuccess hm hd⟩,
    inventoryRun_congr hreceive, run_congr hreceive⟩

end

/-! ## A listing in two spellings -/

/-- A listing of one session, without blanks. -/
def tightListing : List UInt8 := Utf8.encode
  "\x7b\"sessions\":[\x7b\"ssh_host\":\"gpu\",\"gpu_type\":\x7b\"a\":null,\"b\":[]\x7d\x7d]\x7d"

/-- The same listing with blanks, and with the members of its objects the other way round. -/
def looseListing : List UInt8 := Utf8.encode
  "\x7b \"sessions\":\n[\x7b\"gpu_type\":\x7b\"b\":[ ],\"a\":null\x7d, \"ssh_host\":\"gpu\"\x7d]\x7d"

theorem exists_tightListing :
    ∃ members entries, SpellsDocument (bodyText 200 tightListing).toList members ∧
      members.find? "sessions" = some (.array entries) ∧ decide (entries.length = 1) = true :=
  exists_listing (by decide +kernel)

theorem respells_looseListing :
    RespellsDocument (bodyText 200 tightListing).toList (bodyText 200 looseListing).toList := by
  have hspace : Blank [' '] := List.forall_mem_singleton.mpr (.inl rfl)
  have hline : Blank ['\n'] := List.forall_mem_singleton.mpr (.inr (.inr (.inl rfl)))
  have hname := Json.spellsString_writeString
  have hhost : Respells (Json.writeString "gpu") (Json.writeString "gpu") :=
    .scalar (.string (hname _)) (.string (hname _))
  have htype := Respells.exchanged (by decide)
    (.mk (hname "a") .nil .nil (.intro _ _)) (.mk (hname "b") .nil .nil (.intro _ _))
    (.mk (hname "a") .nil .nil (.intro _ _)) (.mk (hname "b") .nil .nil (.intro _ _))
    .nil .nil .nil .nil (.scalar .null .null) (.emptyArray .nil hspace)
  have hentry := Respells.exchanged (by decide)
    (.mk (hname "ssh_host") .nil .nil (.intro _ _)) (.mk (hname "gpu_type") .nil .nil (.intro _ _))
    (.mk (hname "ssh_host") .nil .nil (.intro _ _)) (.mk (hname "gpu_type") .nil .nil (.intro _ _))
    .nil .nil hspace .nil hhost htype
  have hentries := Respells.array (.one .nil (.intro _ _) .nil) (.one .nil (.intro _ _) .nil)
    (List.forall_mem_singleton.mpr hentry)
  have hlisting := Respells.object
    (.one .nil (.mk (hname "sessions") .nil .nil (.intro _ _)) .nil)
    (.one hspace (.mk (hname "sessions") .nil hline (.intro _ _)) .nil)
    (.refl _) (by decide) (List.forall_mem_singleton.mpr hentries)
  exact ⟨[], _, [], [], _, [], .nil, .nil, .nil, .nil, hlisting, by decide +kernel,
    by decide +kernel⟩

/-- Blanks and the order of members make no difference to a run. -/
theorem run_looseListing :
    (200 ≤ 200 ∧ 200 ≤ 299) ∧
    (∃ members entries, SpellsDocument (bodyText 200 tightListing).toList members ∧
      SpellsDocument (bodyText 200 looseListing).toList members ∧
      members.find? "sessions" = some (.array entries) ∧ entries.length = 1) ∧
    RespellsDocument (bodyText 200 tightListing).toList (bodyText 200 looseListing).toList ∧
    ∀ arguments environment, run arguments environment (.made (.answered 200 looseListing)) =
      run arguments environment (.made (.answered 200 tightListing)) := by
  obtain ⟨members, entries, hm, he, hlength⟩ := exists_tightListing
  obtain ⟨hother, -, -, hrun⟩ := run_of_respelled (by decide) hm respells_looseListing
  exact ⟨by decide, ⟨members, entries, hm, hother, he, of_decide_eq_true hlength⟩,
    respells_looseListing, hrun⟩

end SessionInventory
