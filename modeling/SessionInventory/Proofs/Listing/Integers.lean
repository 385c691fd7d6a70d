import Mathlib.Data.Bool.AllAny
import SessionInventory.Proofs.Inventory.Shown
import SessionInventory.Proofs.Json.Integers
import SessionInventory.Proofs.Json.Surroundings
import SessionInventory.Proofs.Listing.Courses

/-!
# Whole numbers as labels

A whole number that the service gives as a label of its only session may have any number of digits.
Around it stands a listing whatever it is (`AroundLabel`), so all that matters is what the digits are
read as. What 64 bits hold is loaded as the number that it is and printed digit for digit; anything
else is loaded as a float and printed as one, or the whole listing is refused (`load_spellsWhole`).
-/

namespace SessionInventory

open Json

/-! ## The only session of a listing -/

/-- Two texts stand around the value of a label in a listing of one session, which is the given one
but for the label. -/
inductive AroundLabel (name : String) (s : Session) (front back : List Char) : Prop where
  | mk {d ms ns before after fill}
    (hb : SurroundsDocument front back d fun v =>
      Table.ofList (ms ++ ("sessions", .array (before ++ fill v :: after)) :: ns))
    (hd : d ≤ 127) (hlast : ∀ m ∈ ns, m.1 ≠ "sessions") (hbefore : sessionsOf before = [])
    (hafter : sessionsOf after = []) (hl : Labelled name fill)
    (hs : Session.ofValue (fill .null) = .ok s)

namespace AroundLabel

variable {name : String} {s : Session} {front back t : List Char} {service : Service}
  {destination : Destination} {status : Nat} {body : List UInt8}
  (h : AroundLabel name s front back) (hs : 200 ≤ status ∧ status ≤ 299)
  (hd : service.destination = .ok destination)
  (htext : (bodyText status body).toList = front ++ t ++ back)

include h hs hd htext

/-- A scalar other than `null` is loaded as the label. -/
theorem load_of_spells (hn : name ∈ Labels.names.toList) {v : Value} (ht : SpellsValue t 0 v)
    (hv : v.isNull = false) :
    (service.load (.answered status body)).2 = [s.relabel name v] := by
  obtain @⟨d, ms, ns, before, after, fill, hb, hdepth, hlast, hbefore, hafter, hl, hfill⟩ := h
  let entries := before ++ fill v :: after
  have hm : SpellsDocument (bodyText status body).toList
      (Table.ofList (ms ++ ("sessions", .array entries) :: ns)) := by
    rw [htext]
    exact hb.document hdepth ht
  have hentries : listedEntries (Table.ofList (ms ++ ("sessions", .array entries) :: ns)) =
      .ok entries := listedEntries_of_lists (.inl (Table.find?_ofList_of_later hlast _))
  have hload := load_of_entries hd (receive_of_spells (isSuccess_iff.mpr hs) hm _) hentries
  rw [hload, sessionsOf_split_ok (hl.ofValue_ok hn hfill hv), hbefore, hafter]
  rfl

/-- A number out of range is what is wrong with the whole listing. -/
theorem load_of_out_of_range {l : Literal} (ht : SpellsLiteral t l) (hv : l.value? = none) :
    ∃ e, readObject (bodyText status body) = .error e ∧ e.flaw = .numberOutOfRange ∧
      (service.fetch (.answered status body)).2 = .error (.decode ⟨e.message, []⟩) ∧
      (service.load (.answered status body)).2 = [] := by
  obtain ⟨hb, hdepth, -, -, -, -, -⟩ := h
  obtain ⟨e, hread, hflaw⟩ := hb.out_of_range hdepth ht hv htext
  have hreceive : (receive destination.address (.answered status body)).2 =
      .error (.decode ⟨e.message, []⟩) := by
    rw [receive_answered (isSuccess_iff.mpr hs), hread]
  have hfetch := service.fetch_of_receive_error hd hreceive
  exact ⟨e, hread, hflaw, hfetch, service.sessions_of_fetch_error hfetch⟩

end AroundLabel

/-! ## What is printed of a label -/

/-- Whether a text is what another one is for each value, with something written in the place of the
value. -/
def ShowsAs (name : String) (text : Value → List Char) (shown written : List Char) : Prop :=
  ∃ level front back, (∀ v, text v = front ++ memberLine level (name, v) ++ back) ∧
    shown = front ++ (writeString name ++ ':' :: ' ' :: written) ++ back

/-- Whether every answer about the endpoint of a session that is the only one but for a label has
something written in the place of the label. -/
def PrintsLabel (s : Session) (e : Endpoint) (name : String) (settings : Settings)
    (sessions : List Session) (written : List Char) : Prop :=
  ∀ request, e.Answers request → ShowsAs (shownName name)
    (fun v => (render request [s.relabel name v] settings).toList)
    (render request sessions settings).toList written

section

variable {s : Session} {e : Endpoint} {name : String} {front back t : List Char} {n : Int}
  {service : Service} {destination : Destination} {status : Nat} {body : List UInt8}

/-- A number is printed as it is written. -/
theorem printsLabel_number (he : s.endpoint? = some e) (hn : name ∈ Labels.names.toList)
    (settings : Settings) (num : Number) :
    PrintsLabel s e name settings [s.relabel name (.number num)] num.write := by
  intro request hr
  obtain ⟨level, front, back, hshown⟩ := showsLabel he hn settings hr
  refine ⟨level, front, back, hshown, ?_⟩
  exact (hshown (.number num)).trans (by rw [memberLine, Value.writePretty])

/-- A whole number that the service gives as a label of its only session is printed as it was
spelled, if 64 bits hold it and it is no zero with a sign: in the inventory, and in the answer about
the host of the session. Any other one is loaded and printed as a float, or it is out of range and
the whole listing is refused for it. -/
theorem load_spellsWhole (hn : name ∈ Labels.names.toList) (he : s.endpoint? = some e)
    (ha : AroundLabel name s front back) (ht : SpellsWhole t n)
    (htext : (bodyText status body).toList = front ++ t ++ back)
    (hs : 200 ≤ status ∧ status ≤ 299) (hd : service.destination = .ok destination)
    (settings : Settings) :
    let loaded := (service.load (.answered status body)).2
    (∀ hfits : Fits n, t ≠ ['-', '0'] →
      loaded = [s.relabel name (.number (.whole n hfits))] ∧
      PrintsLabel s e name settings loaded t) ∧
    (¬(Fits n ∧ t ≠ ['-', '0']) →
      (∃ f, loaded = [s.relabel name (.number (.float f))] ∧
        PrintsLabel s e name settings loaded (Number.float f).write ∧
        ∀ m, ¬SpellsWhole (Number.float f).write m) ∨
      ∃ error, readObject (bodyText status body) = .error error ∧
        error.flaw.message = "number out of range" ∧
        (service.fetch (.answered status body)).2 = .error (.decode ⟨error.message, []⟩) ∧
        loaded = []) := by
  intro loaded
  obtain ⟨l, hl, hwhole, hfloat⟩ := ht.exists_literal
  have hload (num : Number) (hv : l.value? = some num) :
      loaded = [s.relabel name (.number num)] :=
    ha.load_of_spells hs hd htext hn (.number hl hv) rfl
  refine ⟨fun hfits hz => ?_, fun hunfit => ?_⟩
  · have hloaded := hload _ (hwhole hfits hz)
    refine ⟨hloaded, ?_⟩
    rw [hloaded, ← ht.writeInt_eq hz]
    exact printsLabel_number he hn settings _
  · cases hsize : l.size? with
    | some size =>
      have hloaded := hload (.float (if l.negative then -size else size))
        ((hfloat hunfit).trans (by rw [Literal.float?, hsize]; rfl))
      refine .inl ⟨_, hloaded, ?_, not_spellsWhole_float _⟩
      rw [hloaded]
      exact printsLabel_number he hn settings _
    | none =>
      have hv : l.value? = none := (hfloat hunfit).trans (by rw [Literal.float?, hsize]; rfl)
      obtain ⟨error, hread, hflaw, hfetch, hnone⟩ := ha.load_of_out_of_range hs hd htext hl hv
      exact .inr ⟨error, hread, by rw [hflaw]; rfl, hfetch, hnone⟩

end

/-! ## The largest whole number -/

/-- What stands in front of the count in a listing of one session. -/
def countFront : List Char :=
  "\x7b\"sessions\":[\x7b\"ssh_host\":\"gpu\",\"gpu_count\":".toList

/-- What stands behind it. -/
def countBack : List Char := "\x7d]\x7d".toList

theorem aroundLabel_count : ∃ s, s.endpoint? = some ⟨"gpu", 22⟩ ∧
    AroundLabel "gpu_count" s countFront countBack := by
  have hname (s : String) := spellsString_writeString s
  have hhost := SpellsMember.mk (hname "ssh_host") .nil .nil (SpellsValue.string (hname "gpu"))
  have hsurrounds := Surrounds.member (.alone .nil .nil) (hname "sessions") .nil .nil
    (.element (.alone .nil .nil)
      (.member (.later .nil hhost .nil (.alone .nil .nil)) (hname "gpu_count") .nil .nil .here))
  have hb : SurroundsDocument countFront countBack 3 _ :=
    ⟨[], _, _, [], .nil, hsurrounds, .nil, by decide +kernel, by decide +kernel⟩
  exact ⟨_, rfl, .mk hb (by decide) (by decide) rfl rfl (.member (by decide)) rfl⟩

/-- The largest number that 64 bits hold. -/
def largest : List Char := "18446744073709551615".toList

theorem printsLabel_largest : ∃ s : Session, s.endpoint? = some ⟨"gpu", 22⟩ ∧ ∀ settings,
    let listing := Utf8.encode (String.ofList (countFront ++ largest ++ countBack))
    PrintsLabel s ⟨"gpu", 22⟩ "gpu_count" settings
      (Service.standard.load (.answered 200 listing)).2 largest := by
  obtain ⟨s, he, ha⟩ := aroundLabel_count
  obtain ⟨destination, hd⟩ := Service.exists_destination_standard
  have hdigits : Digits largest := ⟨by decide, List.all_iff_forall_prop.mp (by decide)⟩
  have ht : SpellsWhole largest _ := .plain (.digits hdigits (by decide))
  refine ⟨s, he, fun settings => ?_⟩
  exact ((load_spellsWhole (by decide) he ha ht (by decide +kernel) (by decide) hd settings).1
    ⟨by decide, by decide⟩ (by decide)).2

end SessionInventory
