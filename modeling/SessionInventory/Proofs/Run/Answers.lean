import Mathlib.Data.List.Basic
import SessionInventory.Proofs.Filter.Places
import SessionInventory.Proofs.Listing.Courses
import SessionInventory.Run

/-!
# What a run answers

A run with understood arguments succeeds and prints the inventory of the sessions that it loaded, of
which there are none if they could not be fetched, be it for want of a client
(`sessions_of_fetchVia_error`); what it prints does not depend on the filter of its reports
(`run_fails_open`). The one exception is a filter with a misplaced mark, which ends the
run at once with nothing printed (`exists_run_without_answer`).
-/

namespace SessionInventory

open CommandLine (Options)

/-! ## Requests -/

namespace CommandLine.Options

variable {options : Options}

theorem request_eq_list_iff :
    options.request = .list ↔ options.list = true ∨ ∀ name ∈ options.host, name = "" := by
  obtain ⟨list, host, verbose⟩ := options
  cases host with
  | none => exact iff_of_true rfl (.inr nofun)
  | some name => cases list <;> simp [request]

theorem request_eq_host_iff {name : String} : options.request = .host name ↔
    options.list = false ∧ options.host = some name ∧ name ≠ "" := by
  obtain ⟨list, host, verbose⟩ := options
  cases host with
  | none => simp [request]
  | some given =>
    by_cases hnamed : given = ""
    · subst hnamed
      refine iff_of_false (by simp [request]) ?_
      rintro ⟨-, hname, hne⟩
      exact hne (Option.some.inj hname).symm
    · cases list with
      | true => simp [request]
      | false =>
        simp only [request, Bool.false_or, decide_eq_true_eq, if_neg hnamed, Request.host.injEq,
          Option.some.injEq, true_and]
        exact ⟨fun h => ⟨h, h ▸ hnamed⟩, And.left⟩

/-- Being verbose is not part of the request. -/
theorem request_eq_request {other : Options} (hl : other.list = options.list)
    (hh : other.host = options.host) : other.request = options.request := by
  unfold request
  rw [hl, hh]

end CommandLine.Options

/-! ## A listing of nothing -/

/-- The body of an answer that lists nothing. -/
def emptyListing : List UInt8 := Utf8.encode "\x7b\"sessions\":[]\x7d"

theorem exists_emptyListing : ∃ members entries,
    Json.SpellsDocument (bodyText 200 emptyListing).toList members ∧
      members.find? "sessions" = some (.array entries) ∧ entries.isEmpty = true :=
  exists_listing (by decide +kernel)

theorem sessions_of_emptyListing (service : Service) :
    (service.load (.answered 200 emptyListing)).2 = [] := by
  cases hd : service.destination with
  | error e => rw [load_of_destination_error hd]
  | ok destination =>
    obtain ⟨members, entries, hm, he, hempty⟩ := exists_emptyListing
    obtain rfl := List.isEmpty_iff.mp hempty
    have hentries : listedEntries members = .ok [] := by simp only [listedEntries, he]
    rw [load_of_entries hd (receive_of_spells rfl hm _) hentries]
    rfl

/-- Nothing is loaded if nothing can be fetched, with a client or for want of one. -/
theorem Service.sessions_of_fetchVia_error {service : Service} {contact : Contact} {e : FetchError}
    (he : (service.fetchVia contact).2 = .error e) : (service.loadVia contact).2 = [] := by
  cases contact with
  | clientless report => rfl
  | made exchange => exact service.sessions_of_fetch_error he

/-! ## Runs -/

section Runs

variable {arguments : List (List UInt8)} {options : Options} {environment : Environment}

theorem inventoryRun_text (request : Request) (settings : Settings) (contact : Contact) :
    (inventoryRun request settings contact).2 =
      render request (settings.service.loadVia contact).2 settings := by
  unfold inventoryRun
  cases settings.service.loadVia contact
  rfl

theorem runWith_exitCode (options : Options) (filter : Filter) (environment : Environment)
    (contact : Contact) : (runWith options filter environment contact).exitCode = 0 := by
  unfold runWith
  cases inventoryRun options.request (.ofEnvironment environment) contact
  rfl

theorem runWith_output (options : Options) (filter : Filter) (environment : Environment)
    (contact : Contact) : (runWith options filter environment contact).output =
      (inventoryRun options.request (.ofEnvironment environment) contact).2 ++ "\n" := by
  unfold runWith
  cases inventoryRun options.request (.ofEnvironment environment) contact
  rfl

theorem run_of_misplaced (h : CommandLine.read arguments = .ok options)
    (hm : Filter.Misplaces (environment "RUST_LOG")) (contact : Contact) :
    run arguments environment contact = ⟨101, "", []⟩ := by
  have hnone : filter? options environment = none := Filter.ofRun?_eq_none_iff.mpr hm
  simp only [run, h, hnone]

/-- A run with understood arguments and a filter succeeds and prints an answer. -/
theorem run_of_not_misplaced (h : CommandLine.read arguments = .ok options)
    (hm : ¬Filter.Misplaces (environment "RUST_LOG")) (contact : Contact) :
    let settings := Settings.ofEnvironment environment
    (run arguments environment contact).exitCode = 0 ∧
      (run arguments environment contact).output =
        render options.request (settings.service.loadVia contact).2 settings ++ "\n" := by
  intro settings
  cases hf : filter? options environment with
  | none => exact absurd (Filter.ofRun?_eq_none_iff.mp hf) hm
  | some filter =>
    have hrun : run arguments environment contact =
        runWith options filter environment contact := by simp only [run, h, hf]
    rw [hrun, runWith_exitCode, runWith_output, inventoryRun_text]
    exact ⟨rfl, rfl⟩

theorem Settings.ofEnvironment_eq {other : Environment}
    (h : ∀ name, name ≠ "RUST_LOG" → other name = environment name)
    (hhome : other.home? = environment.home?) :
    Settings.ofEnvironment other = Settings.ofEnvironment environment := by
  simp only [Settings.ofEnvironment, Settings.resolve]
  rw [h "GPU_SHOPPER_URL" (by decide), h "SSH_KEY_PATH" (by decide), h "SSH_USER" (by decide), hhome]

end Runs

/-- A run with understood arguments fails only for a misplaced mark in the directives of its filter,
which takes a directive that begins with white space and is not ASCII. Any other succeeds and prints
the inventory, or the host, of the sessions that it loaded. What it prints stays the same with other
directives and whether or not it is verbose, as long as the home directory is the same; and if the
sessions cannot be fetched, for whatever cause, it prints what it prints for an empty listing. -/
theorem run_fails_open {arguments : List (List UInt8)} {options : Options}
    (h : CommandLine.read arguments = .ok options) (environment : Environment)
    (contact : Contact) :
    let settings := Settings.ofEnvironment environment
    let outcome := run arguments environment contact
    (Filter.Misplaces (environment "RUST_LOG") → outcome = ⟨101, "", []⟩ ∧
      ∃ text directive, (environment "RUST_LOG").bind Utf8.decode? = some text ∧
        directive ∈ text.toList.splitOn ',' ∧
        (∃ c ∈ directive.head?, Blank.isBlank c = true) ∧ ∃ c ∈ directive, 0x80 ≤ c.toNat) ∧
    (¬Filter.Misplaces (environment "RUST_LOG") → outcome.exitCode = 0 ∧
      outcome.output =
        render options.request (settings.service.loadVia contact).2 settings ++ "\n" ∧
      (∀ arguments₂ options₂ environment₂, CommandLine.read arguments₂ = .ok options₂ →
        options₂.list = options.list → options₂.host = options.host →
        (∀ name, name ≠ "RUST_LOG" → environment₂ name = environment name) →
        environment₂.home? = environment.home? → ¬Filter.Misplaces (environment₂ "RUST_LOG") →
        (run arguments₂ environment₂ contact).output = outcome.output) ∧
      ∀ e, (settings.service.fetchVia contact).2 = .error e →
        outcome.output = render options.request [] settings ++ "\n" ∧
        (run arguments environment (.made (.answered 200 emptyListing))).output = outcome.output ∧
        ∀ contact₂ e', (settings.service.fetchVia contact₂).2 = .error e' →
          (run arguments environment contact₂).output = outcome.output) ∧
    (options.request = .list ↔ options.list = true ∨ ∀ name ∈ options.host, name = "") ∧
    (∀ name, options.request = .host name ↔
      options.list = false ∧ options.host = some name ∧ name ≠ "") := by
  intro settings outcome
  refine ⟨fun hm => ⟨run_of_misplaced h hm contact, ?_⟩, fun hm => ?_,
    Options.request_eq_list_iff, fun name => Options.request_eq_host_iff⟩
  · obtain ⟨text, htext, -, hread⟩ := hm
    obtain ⟨directive, hmem, hblank, hbytes⟩ := Filter.exists_of_misplaced hread
    exact ⟨text, directive, htext, hmem, hblank, hbytes⟩
  · obtain ⟨hexit, houtput⟩ := run_of_not_misplaced h hm contact
    refine ⟨hexit, houtput, ?_, fun e he => ?_⟩
    · intro arguments₂ options₂ environment₂ h₂ hl hh hsame hhome hm₂
      obtain ⟨-, houtput₂⟩ := run_of_not_misplaced h₂ hm₂ contact
      rw [houtput, houtput₂, Options.request_eq_request hl hh, Settings.ofEnvironment_eq hsame hhome]
    · have hfailed : outcome.output = render options.request [] settings ++ "\n" := by
        rw [houtput, Service.sessions_of_fetchVia_error he]
      refine ⟨hfailed, ?_, fun contact₂ e' he₂ => ?_⟩
      · have hempty := sessions_of_emptyListing settings.service
        rw [(run_of_not_misplaced h hm _).2, Service.loadVia, hempty, hfailed]
      · rw [(run_of_not_misplaced h hm _).2, Service.sessions_of_fetchVia_error he₂, hfailed]

/-- A run that gets no answer prints a host as one that is not listed, and so does one without a
client. -/
theorem run_unanswered :
    CommandLine.read [Utf8.encode "--host", Utf8.encode "gpu"] = .ok ⟨false, some "gpu", false⟩ ∧
    let empty : Environment := ⟨fun _ => none, none⟩
    let unanswered : Contact := .made (.broken [])
    let clientless : Contact := .clientless ⟨"builder error", []⟩
    (run [Utf8.encode "--host", Utf8.encode "gpu"] empty unanswered).exitCode = 0 ∧
    (run [Utf8.encode "--host", Utf8.encode "gpu"] empty unanswered).output = "\x7b\x7d\n" ∧
    (run [Utf8.encode "--host", Utf8.encode "gpu"] empty clientless).output = "\x7b\x7d\n" := by
  have hread : CommandLine.read [Utf8.encode "--host", Utf8.encode "gpu"] =
      .ok ⟨false, some "gpu", false⟩ := by decide +kernel
  refine ⟨hread, ?_⟩
  intro empty unanswered clientless
  obtain ⟨-, hopen, -⟩ := run_fails_open hread empty unanswered
  obtain ⟨hexit, -, -, hfailed⟩ := hopen (fun ⟨_, htext, _⟩ => nomatch htext)
  have hbroken (address : Address) : ∃ e, (receive address (.broken [])).2 = .error e := ⟨_, rfl⟩
  obtain ⟨e, he⟩ := (Settings.ofEnvironment empty).service.exists_fetch_error hbroken
  obtain ⟨houtput, -, hsame⟩ := hfailed e he
  have hprinted : (run [Utf8.encode "--host", Utf8.encode "gpu"] empty unanswered).output =
      "\x7b\x7d\n" := houtput.trans rfl
  exact ⟨hexit, hprinted, (hsame clientless _ rfl).trans hprinted⟩

/-- The directives of a filter, of which the only one begins with a no-break space, and no other
variable. -/
def spacedEnvironment : Environment :=
  fun name => if name = "RUST_LOG" then some (Utf8.encode "\u00A0a=debug") else none

/-- Not every run with understood arguments succeeds and prints an answer. -/
theorem exists_run_without_answer :
    ¬∀ (arguments : List (List UInt8)) (options : Options) (environment : Environment)
      (contact : Contact), CommandLine.read arguments = .ok options →
      let settings := Settings.ofEnvironment environment
      (run arguments environment contact).exitCode = 0 ∧
        (run arguments environment contact).output =
          render options.request (settings.service.loadVia contact).2 settings ++ "\n" := by
  intro h
  have hread : CommandLine.read [Utf8.encode "--list"] = .ok ⟨true, none, false⟩ := by
    decide +kernel
  have hended : (run [Utf8.encode "--list"] spacedEnvironment
      (.made (.answered 200 emptyListing))).exitCode = 101 := by decide +kernel
  obtain ⟨hexit, -⟩ := h _ _ spacedEnvironment (.made (.answered 200 emptyListing)) hread
  exact absurd (hexit.symm.trans hended) (by decide)

end SessionInventory
