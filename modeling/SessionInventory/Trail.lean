import SessionInventory.Listing

/-!
# Where a request is sent on to

An answer may say that the request should go elsewhere instead. Up to ten times it does
(`Trail.Leads.left_add`), and what came of the last request is what came of all
(`Trail.exists_leads_of_follow`).

Who asks is told to no server but the one that was asked first: a request that is sent on to another
host or port no longer says so, and neither do those behind it (`Trail.Leads.credentials`).
`Trail.follow_start` says all this of a request from its start.
-/

namespace SessionInventory

/-- What came of one request. -/
structure Reply where
  /-- What it amounts to unless the request is sent on. -/
  exchange : Exchange
  /-- The reference to where the request should go instead. -/
  location : Option String

/-- Whether an answer with a status says where the request should go instead. -/
def isRedirection (status : Nat) : Bool :=
  [301, 302, 303, 307, 308].contains status

/-- Whether two addresses lead to the same server. -/
def Address.sameServer (a b : Address) : Bool :=
  a.host? = b.host? && a.port? = b.port?

/-- What a request tells of the address that it was sent on from. -/
def Address.referrer? (a next : Address) : Option String :=
  if a.scheme = "https" ∧ next.scheme = "http" then none
  else
    let authority := a.authority.map fun authority =>
      { authority with username := "", password := none }
    some { a with authority, fragment := none }.text

/-- A request, and how often it may still be sent on. -/
structure Trail where
  destination : Destination
  /-- The address that it tells that it was sent on from. -/
  referrer : Option String
  left : Nat

namespace Trail

/-- How often a request is sent on at most. -/
def limit : Nat := 10

/-- A request that was not sent on. -/
def start (destination : Destination) : Trail := ⟨destination, none, limit⟩

/-- The address that a reply sends the request on to. One that no request could name does not
count. -/
def next? (trail : Trail) (reply : Reply) : Option Address :=
  (reply.location.bind fun reference => (trail.destination.address.join reference).toOption).filter
    Address.isSendable

/-- The request that goes to another address instead. -/
def sentOn (trail : Trail) (next : Address) (left : Nat) : Trail :=
  let current := trail.destination.address
  ⟨⟨next, if current.sameServer next then trail.destination.credentials else none⟩,
    (current.referrer? next).or trail.referrer, left⟩

@[simp] theorem left_sentOn (trail : Trail) (next : Address) (left : Nat) :
    (trail.sentOn next left).left = left := rfl

/-- What follows a reply: another request, or the end. -/
def step (trail : Trail) (reply : Reply) : Trail ⊕ Exchange :=
  let current := trail.destination.address
  match trail.next? reply, trail.left, reply.exchange with
  | some next, left + 1, _ =>
    if next.scheme ≠ "http" ∧ next.scheme ≠ "https" then .inr (.failed (next.refusal wrongScheme))
    else .inl (trail.sentOn next left)
  | some _, 0, _ =>
    .inr (.failed ⟨"error following redirect for url (" ++ current.text ++ ")",
      ["too many redirects"]⟩)
  | none, _, .broken causes => .inr (.failed (current.silence causes))
  | none, _, exchange => .inr exchange

/-- A request that is sent on goes to the address that the reply names, and may be sent on once less
often. -/
theorem step_eq_inl {trail next : Trail} {reply : Reply} (h : trail.step reply = .inl next) :
    ∃ address left, trail.next? reply = some address ∧ trail.left = left + 1 ∧
      next = trail.sentOn address left := by
  simp only [step] at h
  split at h
  · rename_i address left ha hl
    split at h
    · cases h
    · exact ⟨address, left, ha, hl, (Sum.inl.inj h).symm⟩
  all_goals cases h

theorem left_step {trail next : Trail} {reply : Reply} (h : trail.step reply = .inl next) :
    next.left < trail.left := by
  obtain ⟨address, left, -, hl, rfl⟩ := step_eq_inl h
  rw [left_sentOn, hl]
  exact Nat.lt_succ_self left

/-- What comes of a request, wherever it is sent on to, given how to ask. -/
def follow {m : Type → Type} [Monad m] (ask : Trail → m Reply) (trail : Trail) : m Exchange := do
  let reply ← ask trail
  match _h : trail.step reply with
  | .inl next => follow ask next
  | .inr exchange => pure exchange
termination_by trail.left
decreasing_by exact left_step _h

/-! ## Where a trail leads -/

/-- Requests one behind the other, each of which is sent on as the next, and how many times that
is. -/
inductive Leads : Nat → Trail → Trail → Prop where
  | refl (trail : Trail) : Leads 0 trail trail
  | step {count : Nat} {trail next last : Trail} {reply : Reply} (h : trail.step reply = .inl next)
      (rest : Leads count next last) : Leads (count + 1) trail last

theorem follow_pure (ask : Trail → Reply) (trail : Trail) :
    Id.run (trail.follow fun asked => pure (ask asked)) =
      match trail.step (ask trail) with
      | .inl next => Id.run (next.follow fun asked => pure (ask asked))
      | .inr exchange => exchange := by
  rw [follow]
  simp only [pure_bind]
  split <;> simp_all

/-- What comes of a request is what comes of the last one that it is sent on as. -/
theorem exists_leads_of_follow (ask : Trail → Reply) (trail : Trail) :
    ∃ count last, Leads count trail last ∧
      last.step (ask last) = .inr (Id.run (trail.follow fun asked => pure (ask asked))) := by
  -- How often a request may still be sent on is what the induction is on.
  induction hleft : trail.left using Nat.strongRecOn generalizing trail with
  | ind left ih =>
    rw [follow_pure]
    cases hs : trail.step (ask trail) with
    | inl next =>
      have hless : next.left < left := hleft ▸ left_step hs
      obtain ⟨count, last, hleads, hlast⟩ := ih next.left hless next rfl
      exact ⟨count + 1, last, .step hs hleads, hlast⟩
    | inr exchange => exact ⟨0, trail, .refl trail, hs⟩

/-- A request is sent on no more often than it may be. -/
theorem Leads.left_add {count : Nat} {trail last : Trail} (h : Leads count trail last) :
    last.left + count = trail.left := by
  induction h with
  | refl => rfl
  | step h rest ih =>
    obtain ⟨address, left, -, hl, rfl⟩ := step_eq_inl h
    rw [left_sentOn] at ih
    omega

/-- Being sent on, a request says who asks as before if it goes to the same server, and otherwise no
longer. -/
theorem credentials_step {trail next : Trail} {reply : Reply} (h : trail.step reply = .inl next) :
    next.destination.credentials = none ∨
      next.destination.credentials = trail.destination.credentials ∧
        trail.destination.address.sameServer next.destination.address = true := by
  obtain ⟨address, left, -, -, rfl⟩ := step_eq_inl h
  by_cases hs : trail.destination.address.sameServer address = true
  · exact .inr ⟨if_pos hs, hs⟩
  · exact .inl (if_neg hs)

theorem sameServer_iff {a b : Address} :
    a.sameServer b = true ↔ a.host? = b.host? ∧ a.port? = b.port? := by
  simp only [Address.sameServer, Bool.and_eq_true, decide_eq_true_eq]

theorem Leads.credentials {count : Nat} {trail last : Trail} (h : Leads count trail last) :
    last.destination.credentials = none ∨
      last.destination.credentials = trail.destination.credentials ∧
        trail.destination.address.sameServer last.destination.address = true := by
  induction h with
  | refl trail => exact .inr ⟨rfl, sameServer_iff.mpr ⟨rfl, rfl⟩⟩
  | step h rest ih =>
    rcases ih with hnone | ⟨hsame, hserver⟩
    · exact .inl hnone
    · rcases credentials_step h with hnone | ⟨hfirst, hstep⟩
      · exact .inl (hsame.trans hnone)
      · obtain ⟨hhost, hport⟩ := sameServer_iff.mp hserver
        obtain ⟨hhost', hport'⟩ := sameServer_iff.mp hstep
        exact .inr ⟨hsame.trans hfirst,
          sameServer_iff.mpr ⟨hhost'.trans hhost, hport'.trans hport⟩⟩

/-- What comes of a request to a destination is what comes of one that it leads to by being sent on
ten times at most, and that says who asks to the server of the destination only. -/
theorem follow_start (ask : Trail → Reply) (destination : Destination) :
    ∃ count last, Leads count (start destination) last ∧ count ≤ 10 ∧
      (last.destination.credentials = none ∨
        last.destination.credentials = destination.credentials ∧
          destination.address.sameServer last.destination.address = true) ∧
      last.step (ask last) =
        .inr (Id.run ((start destination).follow fun asked => pure (ask asked))) := by
  obtain ⟨count, last, hleads, hlast⟩ := exists_leads_of_follow ask (start destination)
  have hcount : count ≤ 10 := by
    have hleft := hleads.left_add
    have hlimit : (start destination).left = 10 := rfl
    omega
  exact ⟨count, last, hleads, hcount, hleads.credentials, hlast⟩

end Trail

end SessionInventory
