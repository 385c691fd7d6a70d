import Mathlib.Data.List.Basic
import SessionInventory.Proofs.Inventory.Entries

/-!
# Keys and the endpoints behind them

A key leaves out the default port and writes any other behind the last underscore
(`Endpoint.numbered_inj`). So two endpoints have one key only if they are equal or one of them
mimics the other: it is on the default port, and its host is spelled like the other's key
(`Endpoint.key_eq_key_iff`, and `Endpoint.key_mk_eq_key_mk_iff` in terms of hosts and ports). Host
names are taken as they come, and so this does happen (`exists_shadowed_endpoint`).

`find?_key_of_mem` says what an inventory holds under the key of a session: what the last session
says whose endpoint clashes with that of the first. Where no endpoint mimics another, it is the
endpoint itself.
-/

namespace SessionInventory

namespace Endpoint

/-- An endpoint on the default port whose host is spelled like the key of another one. -/
def Mimics (e f : Endpoint) : Prop :=
  e.port = defaultPort ∧ f.port ≠ defaultPort ∧ e.host = f.host ++ "_" ++ toString f.port.toNat

instance (e f : Endpoint) : Decidable (e.Mimics f) :=
  inferInstanceAs (Decidable (_ ∧ _ ∧ _))

/-- Two endpoints are equal, or one of them mimics the other. -/
def Clashes (e f : Endpoint) : Prop := e = f ∨ e.Mimics f ∨ f.Mimics e

/-- On the default port a host is its own key. -/
theorem key_of_port_eq {e : Endpoint} (h : e.port = defaultPort) : e.key = e.host :=
  if_pos h

theorem key_of_port_ne {e : Endpoint} (h : e.port ≠ defaultPort) :
    e.key = e.host ++ "_" ++ toString e.port.toNat :=
  if_neg h

theorem underscore_notMem_toString (n : Nat) : '_' ∉ (toString n).toList := fun h => by
  rw [Nat.toString_eq_repr, Nat.toList_repr] at h
  exact absurd (Nat.isDigit_of_mem_toDigits (by decide) (by decide) h) (by decide)

theorem toString_inj {m n : Nat} (h : (toString m).toList = (toString n).toList) : m = n := by
  have hdigits : Nat.toDigits 10 m = Nat.toDigits 10 n := by
    simpa only [Nat.toString_eq_repr, Nat.toList_repr] using h
  have hvalue := congrArg (fun digits => Nat.ofDigitChars 10 digits 0) hdigits
  simpa using hvalue

/-- The last underscore of a numbered text stands before its number. -/
theorem numbered_inj {a b : String} {m n : Nat}
    (h : a ++ "_" ++ toString m = b ++ "_" ++ toString n) : a = b ∧ m = n := by
  have hreverse : (toString m).toList.reverse ++ '_' :: a.toList.reverse =
      (toString n).toList.reverse ++ '_' :: b.toList.reverse := by
    simpa using congrArg (fun s => s.toList.reverse) h
  have hdigits (k : Nat) (rest : List Char) :
      ((toString k).toList.reverse ++ '_' :: rest).takeWhile (· ≠ '_') =
        (toString k).toList.reverse := by
    rw [List.takeWhile_append_of_pos fun c hc => ?_]
    · simp
    · rw [decide_eq_true_eq]
      rintro rfl
      exact underscore_notMem_toString k (List.mem_reverse.mp hc)
  obtain rfl : m = n := by
    have htake := congrArg (List.takeWhile (· ≠ '_')) hreverse
    rw [hdigits, hdigits] at htake
    exact toString_inj (List.reverse_injective htake)
  obtain ⟨-, ha⟩ := List.cons_eq_cons.mp (List.append_cancel_left hreverse)
  exact ⟨String.toList_injective (List.reverse_injective ha), rfl⟩

/-- On one port a key has one host. -/
theorem eq_of_port_eq_of_key_eq {e f : Endpoint} (hp : e.port = f.port) (h : e.key = f.key) :
    e = f := by
  have hhost : e.host = f.host := by
    by_cases hd : e.port = defaultPort
    · rwa [key_of_port_eq hd, key_of_port_eq (hp ▸ hd)] at h
    · rw [key_of_port_ne hd, key_of_port_ne (hp ▸ hd)] at h
      exact (numbered_inj h).1
  cases e
  cases f
  exact congr (congrArg mk hhost) hp

theorem Mimics.key_eq {e f : Endpoint} (h : e.Mimics f) : e.key = f.key := by
  obtain ⟨he, hf, hh⟩ := h
  rw [key_of_port_eq he, key_of_port_ne hf, hh]

/-- Of two endpoints with one key on different ports, one of which is the default port, the one on
the default port mimics the other. -/
theorem mimics_of_key_eq {e f : Endpoint} (he : e.port = defaultPort) (hf : f.port ≠ defaultPort)
    (h : e.key = f.key) : e.Mimics f :=
  ⟨he, hf, by rwa [key_of_port_eq he, key_of_port_ne hf] at h⟩

/-- Two endpoints have one key exactly if they clash. -/
theorem key_eq_key_iff {e f : Endpoint} : e.key = f.key ↔ e.Clashes f := by
  constructor
  · intro h
    by_cases he : e.port = defaultPort <;> by_cases hf : f.port = defaultPort
    · exact .inl (eq_of_port_eq_of_key_eq (he.trans hf.symm) h)
    · exact .inr (.inl (mimics_of_key_eq he hf h))
    · exact .inr (.inr (mimics_of_key_eq hf he h.symm))
    · have hn := h
      rw [key_of_port_ne he, key_of_port_ne hf] at hn
      exact .inl (eq_of_port_eq_of_key_eq (UInt16.toNat_inj.mp (numbered_inj hn).2) h)
  · rintro (rfl | h | h)
    · rfl
    · exact h.key_eq
    · exact h.key_eq.symm

/-- No host is its own name with a number behind it. -/
theorem ne_numbered (host : String) (n : Nat) : host ≠ host ++ "_" ++ toString n := fun h => by
  have hlength := congrArg String.length h
  have hmark : "_".length = 1 := rfl
  simp only [String.length_append] at hlength
  omega

/-- Two endpoints have one key exactly if they are the same, or one is on port 22 and the other is
not, and the host of the one is that of the other with an underscore and the port of the other
behind it. So on one host every port has its own key, and of the endpoints that are not on port 22
each has its own key. -/
theorem key_mk_eq_key_mk_iff (h₁ h₂ : String) (p₁ p₂ : UInt16) :
    ((mk h₁ p₁).key = (mk h₂ p₂).key ↔
      (h₁ = h₂ ∧ p₁ = p₂) ∨
      (p₁ = 22 ∧ p₂ ≠ 22 ∧ h₁ = h₂ ++ "_" ++ toString p₂.toNat) ∨
      (p₂ = 22 ∧ p₁ ≠ 22 ∧ h₂ = h₁ ++ "_" ++ toString p₁.toNat)) ∧
    ((mk h₁ p₁).key = (mk h₁ p₂).key ↔ p₁ = p₂) ∧
    (p₁ ≠ 22 → p₂ ≠ 22 → ((mk h₁ p₁).key = (mk h₂ p₂).key ↔ h₁ = h₂ ∧ p₁ = p₂)) := by
  have hkeys (g h : String) (p q : UInt16) : (mk g p).key = (mk h q).key ↔
      (g = h ∧ p = q) ∨ (p = 22 ∧ q ≠ 22 ∧ g = h ++ "_" ++ toString q.toNat) ∨
      (q = 22 ∧ p ≠ 22 ∧ h = g ++ "_" ++ toString p.toNat) := by
    rw [key_eq_key_iff]
    simp only [Clashes, Mimics, mk.injEq, defaultPort]
  refine ⟨hkeys h₁ h₂ p₁ p₂, ?_, fun hp₁ hp₂ => ?_⟩
  · rw [hkeys]
    constructor
    · rintro (⟨-, h⟩ | ⟨-, -, h⟩ | ⟨-, -, h⟩)
      · exact h
      · exact absurd h (ne_numbered h₁ p₂.toNat)
      · exact absurd h (ne_numbered h₁ p₁.toNat)
    · intro h
      exact .inl ⟨rfl, h⟩
  · rw [hkeys]
    constructor
    · rintro (h | ⟨h, -, -⟩ | ⟨h, -, -⟩)
      · exact h
      · exact absurd h hp₁
      · exact absurd h hp₂
    · exact .inl

end Endpoint

/-! ## What stands under a key -/

theorem key_ne_of_endpoint? {sessions : List Session} {key : String}
    (h : key ∉ (addressable sessions).map (·.endpoint.key)) {s : Session} (hs : s ∈ sessions)
    {e : Endpoint} (he : s.endpoint? = some e) : e.key ≠ key := fun hk => by
  rw [keys_addressable] at h
  exact h (List.mem_filterMap.mpr ⟨s, hs, by rw [he, ← hk, Option.map_some]⟩)

/-- Under the key of a session stands what the last session with that key says. -/
theorem exists_last_of_mem {sessions : List Session} (keyPath user : String) {s : Session}
    {e : Endpoint} (hs : s ∈ sessions) (he : s.endpoint? = some e) :
    ∃ before t after f, sessions = before ++ t :: after ∧ t.endpoint? = some f ∧ f.key = e.key ∧
      (∀ u ∈ after, ∀ g, u.endpoint? = some g → g.key ≠ e.key) ∧
      (Inventory.ofSessions sessions keyPath user).hostVars.find? e.key =
        some ⟨f, t.labels.effective⟩ := by
  have hvars : ⟨e, s.labels.effective⟩ ∈ addressable sessions :=
    mem_addressable_iff.mpr ⟨s, hs, Session.hostVars?_eq_some_iff.mpr ⟨he, rfl⟩⟩
  have hkey : e.key ∈ (Inventory.ofSessions sessions keyPath user).hostVars.keys :=
    Inventory.mem_keys_hostVars_iff.mpr (Inventory.mem_hosts_iff.mpr ⟨_, hvars, rfl⟩)
  obtain ⟨⟨key, vars⟩, hentry, rfl : key = e.key⟩ := List.mem_map.mp hkey
  obtain ⟨before, t, after, hsplit, ht, hk, hlast⟩ := Inventory.mem_hostVars_iff.mp hentry
  obtain ⟨hf, hl⟩ := Session.hostVars?_eq_some_iff.mp ht
  refine ⟨before, t, after, vars.endpoint, hsplit, hf, hk, fun u hu g hg => ?_, ?_⟩
  · exact key_ne_of_endpoint? hlast hu hg
  · rw [Inventory.sorted_hostVars.find?_eq_some_iff.mpr hentry, ← hl]

/-- Under the key of a session stands what the last session says whose endpoint clashes with that of
the first: it is the same, or one of the two mimics the other. If no endpoint of a session mimics
that of the first or is mimicked by it, the host and the port are those of the first. -/
theorem find?_key_of_mem {sessions : List Session} (keyPath user : String) {s : Session}
    {e : Endpoint} (hs : s ∈ sessions) (he : s.endpoint? = some e) :
    let hostVars := (Inventory.ofSessions sessions keyPath user).hostVars
    (∃ before t after f, sessions = before ++ t :: after ∧ t.endpoint? = some f ∧ f.Clashes e ∧
      (∀ u ∈ after, ∀ g, u.endpoint? = some g → ¬g.Clashes e) ∧
      hostVars.find? e.key = some ⟨f, t.labels.effective⟩) ∧
    ((∀ t ∈ sessions, ∀ f, t.endpoint? = some f → ¬f.Mimics e ∧ ¬e.Mimics f) →
      ∃ vars, hostVars.find? e.key = some vars ∧ vars.endpoint.host = e.host ∧
        vars.endpoint.port = e.port) := by
  intro hostVars
  obtain ⟨before, t, after, f, hsplit, hf, hk, hlast, hfind⟩ :=
    exists_last_of_mem keyPath user hs he
  have hclash : f.Clashes e := Endpoint.key_eq_key_iff.mp hk
  refine ⟨⟨before, t, after, f, hsplit, hf, hclash, fun u hu g hg hc => ?_, hfind⟩, fun hno => ?_⟩
  · exact hlast u hu g hg (Endpoint.key_eq_key_iff.mpr hc)
  · have ht : t ∈ sessions := hsplit ▸ List.mem_append_right before List.mem_cons_self
    obtain rfl : f = e := hclash.resolve_right fun h => h.elim (hno t ht f hf).1 (hno t ht f hf).2
    exact ⟨_, hfind, rfl, rfl⟩

/-- Three sessions, the host of the first of which is spelled like the key of the second. -/
def Session.lookalikes : List Session :=
  [{ Session.blank with host := some "gpu_2222" },
    { Session.blank with host := some "gpu", port := some 2222 },
    { Session.blank with host := some "gpu" }]

/-- The second of them takes the place of the first, and the third keeps its own. -/
theorem find?_key_of_lookalike :
    (∃ s ∈ Session.lookalikes, s.endpoint? = some ⟨"gpu_2222", 22⟩) ∧
    (∃ t ∈ Session.lookalikes, ∃ f, t.endpoint? = some f ∧ f.Clashes ⟨"gpu_2222", 22⟩ ∧
      (Inventory.ofSessions Session.lookalikes "key" "root").hostVars.find? "gpu_2222" =
        some ⟨f, t.labels.effective⟩) ∧
    ∃ vars, (Inventory.ofSessions Session.lookalikes "key" "root").hostVars.find? "gpu" = some vars ∧
      vars.endpoint.host = "gpu" ∧ vars.endpoint.port = 22 := by
  have hfirst : Session.lookalikes[0].endpoint? = some ⟨"gpu_2222", 22⟩ := rfl
  have hthird : Session.lookalikes[2].endpoint? = some ⟨"gpu", 22⟩ := rfl
  refine ⟨⟨_, List.mem_cons_self, hfirst⟩, ?_,
    (find?_key_of_mem "key" "root" (List.getElem_mem _) hthird).2 ?_⟩
  · obtain ⟨⟨before, t, after, f, hsplit, hf, hclash, -, hfind⟩, -⟩ :=
      find?_key_of_mem "key" "root" (List.getElem_mem _) hfirst
    exact ⟨t, hsplit ▸ List.mem_append_right before List.mem_cons_self, f, hf, hclash, hfind⟩
  · simp only [Session.lookalikes, List.forall_mem_cons]
    refine ⟨?_, ?_, ?_, List.forall_mem_nil _⟩
    all_goals
      rintro f hf
      obtain rfl := Option.some.inj hf
      decide

/-- Not every session has its own endpoint under its key: a later one may have another endpoint and
the same key. -/
theorem exists_shadowed_endpoint :
    ¬∀ (sessions : List Session) (keyPath user : String), ∀ s ∈ sessions, ∀ e,
      s.endpoint? = some e →
      ∃ vars, (Inventory.ofSessions sessions keyPath user).hostVars.find? e.key = some vars ∧
        vars.endpoint.host = e.host ∧ vars.endpoint.port = e.port := by
  intro h
  obtain ⟨vars, hfind, hhost, -⟩ := h Session.lookalikes "key" "root" _ List.mem_cons_self
    ⟨"gpu_2222", 22⟩ rfl
  obtain rfl : ⟨⟨"gpu", 2222⟩, Session.blank.labels.effective⟩ = vars := Option.some.inj hfind
  exact absurd hhost (by decide)

end SessionInventory
