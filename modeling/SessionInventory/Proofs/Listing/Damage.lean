import Mathlib.Data.Bool.AllAny
import SessionInventory.Proofs.Json.Respelling
import SessionInventory.Proofs.Json.Surroundings
import SessionInventory.Proofs.Listing.Entries
import SessionInventory.Proofs.Session.Labelled
import SessionInventory.Proofs.Text.Lossy

/-!
# Damaged labels

A label that is a string stands in a listing between two quotes, with bytes in front of them and
behind (`exists_quoting`). Between the quotes any bytes outside ASCII may stand, whether they are
text or not. The quotes are what they were, since a byte of ASCII is never taken for a part of a
longer character, and what stands between them is one string without escapes
(`spellsString_of_beyond`). So the damage stays in the label (`fetch_damaged`): the answer is still a
listing, every other entry is fetched or skipped as it was, and so is the entry itself, whose label
has become what the damage reads as.
-/

namespace SessionInventory

open Json
open Utf8 (decodeFrom decodeLossy Beyond)

/-! ## Places in a listing -/

/-- Where a member stands in a listing: between other members of its entry, which stands between
other entries. -/
structure Place where
  before : List Value
  earlier : List (String × Value)
  name : String
  later : List (String × Value)
  after : List Value

namespace Place

/-- The entry with a value in its place. -/
def entry (p : Place) (v : Value) : Value :=
  .object (Table.ofList (p.earlier ++ (p.name, v) :: p.later))

/-- The entries with a value in its place. -/
def entries (p : Place) (v : Value) : List Value := p.before ++ p.entry v :: p.after

/-- The members of the answer with a value in its place. -/
def members (p : Place) (v : Value) : Table Value := [("sessions", .array (p.entries v))]

/-- Whether the member in a place is the label that it is named for. -/
structure IsLabel (p : Place) : Prop where
  named : p.name ∈ Labels.names.toList
  /-- No later member has its name. -/
  last : ∀ m ∈ p.later, m.1 ≠ p.name

variable {p : Place}

/-- In an answer that is a listing, every label that is a string has its place. -/
theorem exists_surroundings {text : List Char} {before after : List Value} {entry : Table Value}
    {name given : String}
    (h : SpellsDocument text [("sessions", .array (before ++ .object entry :: after))])
    (hf : entry.find? name = some (.string given)) :
    ∃ (p : Place) (front t back : List Char) (d : Nat), p.before = before ∧ p.after = after ∧
      p.name = name ∧ (∀ m ∈ p.later, m.1 ≠ name) ∧ p.entry (.string given) = .object entry ∧
      SurroundsDocument front back d p.members ∧ SpellsString t given ∧ text = front ++ t ++ back := by
  have hlisted : Table.find? "sessions" [("sessions", Value.array
      (before ++ .object entry :: after))] = some (.array (before ++ .object entry :: after)) :=
    if_pos rfl
  obtain ⟨lead, t, trail, d, hlead, ht, -, htrail, rfl⟩ := h
  obtain ⟨f₁, n₁, b₁, a₁, u₁, k₁, e₁, c₁, ms, ns, hs₁, hn₁, hb₁, ha₁, hu₁, rfl, htable, hlast⟩ :=
    ht.exists_member hlisted
  obtain ⟨f₂, u₂, k₂, e₂, c₂, hs₂, hu₂, rfl⟩ := hu₁.exists_element
  obtain ⟨f₃, n₃, b₃, a₃, u₃, k₃, e₃, c₃, earlier, later, hs₃, hn₃, hb₃, ha₃, hu₃, rfl, hentry,
    hlater⟩ := hu₂.exists_member hf
  let p : Place := ⟨before, earlier, name, later, after⟩
  have hsurrounds := Surrounds.member hs₁ hn₁ hb₁ ha₁
    (.element hs₂ (.member hs₃ hn₃ hb₃ ha₃ .here))
  have hfill (v : Value) : Value.object (Table.ofList (ms ++ ("sessions", .array (before ++
      .object (Table.ofList (earlier ++ (name, v) :: later)) :: after)) :: ns)) =
        .object (p.members v) :=
    congrArg Value.object (Table.ofList_eq_singleton htable.symm hlast _)
  have hgiven : SpellsString u₃ given := by
    cases hu₃ with
    | string h => exact h
  refine ⟨p, _, u₃, _, _, rfl, rfl, rfl, hlater, congrArg Value.object hentry.symm,
    ⟨lead, _, _, trail, hlead, (funext hfill) ▸ hsurrounds, htrail, rfl, rfl⟩, hgiven, by simp⟩

theorem listedEntries_members (p : Place) (v : Value) :
    listedEntries (p.members v) = .ok (p.entries v) := rfl

theorem IsLabel.labelled (h : p.IsLabel) : Labelled p.name p.entry := .member h.last

end Place

/-! ## Strings outside ASCII -/

/-- Outside ASCII every character stands for itself in a string. -/
theorem spellsChars_of_beyond {text : List Char} (h : Beyond text) : SpellsChars text text := by
  induction text with
  | nil => exact .nil
  | cons c rest ih =>
    obtain ⟨hc, hrest⟩ := List.forall_mem_cons.mp h
    have hne {d : Char} (hd : d.toNat < 0x80) : c ≠ d := by
      rintro rfl
      omega
    have hblank : ' ' ≤ c := by
      rw [Char.le_def, UInt32.le_iff_toNat_le]
      exact Nat.le_trans (by decide) hc
    exact .cons (t := [c]) (.plain (hne (by decide)) (hne (by decide)) hblank) (ih hrest)

theorem spellsString_of_beyond {bytes : List UInt8} (h : ∀ b ∈ bytes, 0x80 ≤ b) :
    SpellsString ('"' :: decodeFrom none bytes ++ ['"']) (decodeLossy bytes) :=
  .mk (spellsChars_of_beyond (Utf8.beyond_decodeFrom Utf8.sound_of_mem_none
    fun b hb => UInt8.not_lt.mpr (h b hb)))

/-! ## Quotes among bytes -/

/-- Bytes with others in quotes between them. -/
def quoting (front content back : List UInt8) : List UInt8 :=
  front ++ 0x22 :: (content ++ 0x22 :: back)

/-- What is quoted is read by itself, and so is what stands around it. -/
theorem toList_decodeLossy_quoting (front content back : List UInt8) :
    (decodeLossy (quoting front content back)).toList =
      decodeFrom none front ++ ('"' :: decodeFrom none content ++ ['"']) ++ decodeFrom none back := by
  have hquote : Char.ofNat (0x22 : UInt8).toNat = '"' := rfl
  rw [decodeLossy, String.toList_ofList, quoting,
    Utf8.decodeFrom_append_ascii none front (by decide),
    Utf8.decodeFrom_append_ascii none content (by decide), hquote]
  simp

/-- In a body that is a listing, every label that is a string stands between two quotes. -/
theorem exists_quoting {body : List UInt8} {before after : List Value} {entry : Table Value}
    {name given : String} (h : SpellsDocument (decodeLossy body).toList
      [("sessions", .array (before ++ .object entry :: after))])
    (hf : entry.find? name = some (.string given)) :
    ∃ (p : Place) (front content back : List UInt8) (d : Nat), p.before = before ∧
      p.after = after ∧ p.name = name ∧ (∀ m ∈ p.later, m.1 ≠ name) ∧
      p.entry (.string given) = .object entry ∧ body = quoting front content back ∧
      SurroundsDocument (decodeFrom none front) (decodeFrom none back) d p.members ∧
      SpellsString ('"' :: decodeFrom none content ++ ['"']) given := by
  obtain ⟨p, front, t, back, d, hbefore, hafter, hname, hlater, hentry, hb, ht, htext⟩ :=
    Place.exists_surroundings h hf
  obtain @⟨inner, cs, hinner⟩ := ht
  have hread : decodeFrom none body = front ++ '"' :: (inner ++ '"' :: back) := by
    rw [← String.toList_ofList (l := decodeFrom none body)]
    exact htext.trans (by simp)
  obtain ⟨f, rest, rfl, rfl, hrest⟩ :=
    Utf8.exists_of_decodeFrom Utf8.sound_of_mem_none (by decide) hread
  obtain ⟨content, k, rfl, rfl, rfl⟩ :=
    Utf8.exists_of_decodeFrom Utf8.sound_of_mem_none (by decide) hrest
  exact ⟨p, f, content, k, d, hbefore, hafter, hname, hlater, hentry, rfl, hb, .mk hinner⟩

variable {status : Nat} {body : List UInt8} {members : Table Value}

/-- An answer whose text is a document has the text that its body reads as. -/
theorem bodyText_eq (h : SpellsDocument (bodyText status body).toList members)
    (other : List UInt8) : bodyText status other = decodeLossy other := by
  rw [bodyText] at h ⊢
  split at h
  · obtain ⟨before, t, after, d, -, ht, -, -, heq⟩ := h
    obtain ⟨c, rest, rfl, -⟩ := ht.opens
    cases before <;> cases heq
  · rename_i hstatus
    exact if_neg hstatus

/-! ## Damage between quotes -/

theorem skippedFrom_congr_entry {index : Nat} {before after : List Value} {entry entry' : Value}
    (h : ∀ m, Session.ofValue entry = .error m ↔ Session.ofValue entry' = .error m) :
    skippedFrom index (before ++ entry :: after) = skippedFrom index (before ++ entry' :: after) := by
  have hskip (place : Nat) : skipped? entry place = skipped? entry' place :=
    Option.ext fun skip => by rw [skipped?_eq_some_iff, skipped?_eq_some_iff, h]
  rw [skippedFrom_split, skippedFrom_split, hskip]

/-- Entries of which the same are skipped describe as many sessions. -/
theorem length_sessionsOf_congr {entries others : List Value} {index : Nat}
    (hskips : skippedFrom index others = skippedFrom index entries)
    (hlength : others.length = entries.length) :
    (sessionsOf others).length = (sessionsOf entries).length := by
  have hentries := length_sessionsOf_add index entries
  have hothers := length_sessionsOf_add index others
  rw [hskips] at hothers
  omega

variable {service : Service} {destination : Destination} {p : Place}
  {front content back damage : List UInt8} {d : Nat} {given : String}

/-- What is between the quotes of a label that is a string may be damaged, and the answer is still a
listing. -/
theorem spells_damaged
    (hb : SurroundsDocument (decodeFrom none front) (decodeFrom none back) d p.members)
    (hc : SpellsString ('"' :: decodeFrom none content ++ ['"']) given)
    (hm : SpellsDocument (bodyText status (quoting front content back)).toList members)
    (hdamage : ∀ b ∈ damage, 0x80 ≤ b) :
    members = p.members (.string given) ∧
    SpellsDocument (bodyText status (quoting front damage back)).toList
      (p.members (.string (decodeLossy damage))) := by
  have htext (bytes : List UInt8) : (bodyText status (quoting front bytes back)).toList =
      decodeFrom none front ++ ('"' :: decodeFrom none bytes ++ ['"']) ++ decodeFrom none back := by
    rw [bodyText_eq hm, toList_decodeLossy_quoting]
  obtain ⟨lead, u, trail, hlead, hu, htrail, heq⟩ := hb.spells (.string hc)
  rw [htext content, heq] at hm
  obtain ⟨hdepth, hmembers⟩ := hm.eq_of_spells hlead hu htrail
  refine ⟨(Value.object.inj hmembers).symm, ?_⟩
  rw [htext damage]
  exact hb.document hdepth (.string (spellsString_of_beyond hdamage))

/-- Where the value of a label is a string, bytes outside ASCII may take the place of what stands
between its quotes. The answer is still a listing, and all that changes is the label: it is what the
bytes read as, if the entry describes a session, and otherwise the entry is skipped as before. -/
theorem fetch_damaged (hp : p.IsLabel)
    (hb : SurroundsDocument (decodeFrom none front) (decodeFrom none back) d p.members)
    (hc : SpellsString ('"' :: decodeFrom none content ++ ['"']) given)
    (hs : 200 ≤ status ∧ status ≤ 299) (hd : service.destination = .ok destination)
    (hm : SpellsDocument (bodyText status (quoting front content back)).toList members)
    (hdamage : ∀ b ∈ damage, 0x80 ≤ b) :
    let damaged := Value.string (decodeLossy damage)
    let fetched := service.fetch (.answered status (quoting front content back))
    let refetched := service.fetch (.answered status (quoting front damage back))
    members = p.members (.string given) ∧
    SpellsDocument (bodyText status (quoting front damage back)).toList (p.members damaged) ∧
    refetched.1 = fetched.1 ∧
    (∀ m, Session.ofValue (p.entry (.string given)) = .error m →
      Session.ofValue (p.entry damaged) = .error m ∧
      .entrySkipped p.before.length m ∈ refetched.1 ∧
      fetched.2 = .ok (sessionsOf p.before ++ sessionsOf p.after) ∧
      refetched.2 = .ok (sessionsOf p.before ++ sessionsOf p.after)) ∧
    ∀ s, Session.ofValue (p.entry (.string given)) = .ok s →
      let changed := s.relabel p.name damaged
      Session.ofValue (p.entry damaged) = .ok changed ∧
      fetched.2 = .ok (sessionsOf p.before ++ s :: sessionsOf p.after) ∧
      refetched.2 = .ok (sessionsOf p.before ++ changed :: sessionsOf p.after) := by
  intro damaged fetched refetched
  obtain ⟨rfl, hm'⟩ := spells_damaged hb hc hm hdamage
  have hfetched : fetched = _ := fetch_of_entries hd
    (receive_of_spells (isSuccess_iff.mpr hs) hm _) (p.listedEntries_members _)
  have hrefetched : refetched = _ := fetch_of_entries hd
    (receive_of_spells (isSuccess_iff.mpr hs) hm' _) (p.listedEntries_members _)
  have hskips : skippedFrom 0 (p.entries damaged) = skippedFrom 0 (p.entries (.string given)) :=
    skippedFrom_congr_entry fun m => hp.labelled.ofValue_error_iff hp.named
  have hlength : (sessionsOf (p.entries damaged)).length =
      (sessionsOf (p.entries (.string given))).length :=
    length_sessionsOf_congr hskips (by simp only [Place.entries, List.length_append, List.length_cons])
  refine ⟨rfl, hm', ?_, fun m he => ?_, fun s ho => ?_⟩
  · rw [hfetched, hrefetched, hskips, hlength]
  · have he' : Session.ofValue (p.entry damaged) = .error m :=
      (hp.labelled.ofValue_error_iff hp.named).mp he
    have hskipped : (p.before.length, m) ∈ skippedFrom 0 (p.entries damaged) :=
      mem_skippedFrom_iff.mpr ⟨_, by simp [Place.entries], he'⟩
    refine ⟨he', ?_, ?_, ?_⟩
    · rw [hrefetched]
      exact List.mem_cons_of_mem _ (List.mem_append_left _ (List.mem_map_of_mem hskipped))
    · rw [hfetched, Place.entries, sessionsOf_split_error he]
    · rw [hrefetched, Place.entries, sessionsOf_split_error he']
  · have ho' : Session.ofValue (p.entry damaged) = .ok (s.relabel p.name damaged) :=
      hp.labelled.ofValue_ok hp.named ho rfl
    refine ⟨ho', ?_, ?_⟩
    · rw [hfetched, Place.entries, sessionsOf_split_ok ho]
    · rw [hrefetched, Place.entries, sessionsOf_split_ok ho']

/-! ## Half a character -/

/-- The place of an identifier in front of the other member of the first of two entries. -/
def Place.identifier : Place := ⟨[], [], "id", [("ssh_host", .string "gpu")], [.null]⟩

/-- What stands in front of the identifier. -/
def identifierFront : List UInt8 := Utf8.encode "\x7b\"sessions\":[\x7b\"id\":"

/-- What stands behind the identifier. -/
def identifierBack : List UInt8 := Utf8.encode ",\"ssh_host\":\"gpu\"\x7d,null]\x7d"

theorem surrounds_identifier : SurroundsDocument (decodeFrom none identifierFront)
    (decodeFrom none identifierBack) 3 Place.identifier.members := by
  have hname (s : String) := spellsString_writeString s
  have hhost := Listed.one .nil (SpellsMember.mk (hname "ssh_host") .nil .nil
    (SpellsValue.string (hname "gpu"))) .nil
  have hnull := Listed.one .nil SpellsValue.null .nil
  exact ⟨[], _, _, [], .nil, .member (.alone .nil .nil) (hname "sessions") .nil .nil
    (.element (.first .nil .nil hnull)
      (.member (.first .nil .nil hhost) (hname "id") .nil .nil .here)), .nil,
    by decide +kernel, by decide +kernel⟩

/-- The first two bytes of a character of three are one damage. -/
theorem fetch_damaged_identifier : ∃ s : Session,
    (Service.standard.fetch
      (.answered 200 (quoting identifierFront [0x37] identifierBack))).2 = .ok [s] ∧
    (Service.standard.fetch
      (.answered 200 (quoting identifierFront [0xE2, 0x82] identifierBack))).2 =
      .ok [s.relabel "id" (.string "\uFFFD")] := by
  obtain ⟨destination, hd⟩ := Service.exists_destination_standard
  have hb := surrounds_identifier
  have hc : SpellsString ('"' :: decodeFrom none [0x37] ++ ['"']) "7" :=
    spellsString_writeString "7"
  have hm : SpellsDocument (bodyText 200 (quoting identifierFront [0x37] identifierBack)).toList
      (Place.identifier.members (.string "7")) := by
    rw [bodyText, if_neg (by decide), toList_decodeLossy_quoting]
    exact hb.document (by decide) (.string hc)
  have hdamage : ∀ b ∈ ([0xE2, 0x82] : List UInt8), 0x80 ≤ b :=
    List.all_iff_forall_prop.mp (by decide)
  obtain ⟨-, -, -, -, hok⟩ :=
    fetch_damaged ⟨by decide, by decide⟩ hb hc (by decide) hd hm hdamage
  obtain ⟨-, hfetched, hrefetched⟩ := hok _ rfl
  have hread : decodeLossy [0xE2, 0x82] = "\uFFFD" := by decide +kernel
  rw [hread] at hrefetched
  exact ⟨_, hfetched, hrefetched⟩

end SessionInventory
