import Mathlib.Data.Bool.AllAny
import SessionInventory.Proofs.Address.Paths
import SessionInventory.Proofs.Address.Servers
import SessionInventory.Wire

/-!
# What a service is asked for

The sessions are listed below whatever address a service has, and this address is not looked at
before the path and the query of the listing are appended to it. Behind the address of a server and a
path of any kind they stay what they are: the path of the request ends with the one and its query is
the other. But a `?` or a `#` in the address of the service ends its path, and what is appended
behind it is not part of the path that is asked for (`listing_target`).
-/

namespace SessionInventory

open Address (Server Form counts endsPath encodeUnless)

/-- The path below a service at which it lists its sessions. -/
def listingPath : List Char := "/api/v1/sessions".toList

/-- The query by which it lists those that are running. -/
def listingQuery : List Char := "status=running".toList

/-- What counts of the text behind a server in the address of a service. -/
def keptOf (suffix : List Char) : List Char :=
  (suffix.rdropWhile (· = '/')).filter counts

/-! ## The address of a listing -/

section

variable (server : Server) (timeout : Nat)

/-- Slashes at the end of the address of a service are left out before the path is appended. -/
theorem Service.listingUrl_ofUrl (suffix : List Char) :
    (ofUrl (server.url ++ String.ofList suffix) timeout).listingUrl = server.url ++
      String.ofList (suffix.rdropWhile (· = '/') ++ (listingPath ++ '?' :: listingQuery)) := by
  have hbase : (ofUrl (server.url ++ String.ofList suffix) timeout).base =
      String.ofList (server.url.toList ++ suffix.rdropWhile (· = '/')) := by
    rw [← Address.rdropWhile_append server.ne_slash_of_getLast?_url]
    simp only [ofUrl, List.rdropWhile, String.toList_append, String.toList_ofList]
  have hlisting : "/api/v1/sessions?status=running" =
      String.ofList (listingPath ++ '?' :: listingQuery) := by decide +kernel
  rw [listingUrl, hbase, hlisting]
  simp only [String.ofList_append, String.ofList_toList, String.append_assoc]

variable {suffix : List Char}

theorem rdropWhile_begins (h : suffix = [] ∨ suffix.head? = some '/') :
    suffix.rdropWhile (· = '/') = [] ∨ (suffix.rdropWhile (· = '/')).head? = some '/' := by
  cases hd : suffix.rdropWhile (· = '/') with
  | nil => exact .inl rfl
  | cons c rest =>
    obtain ⟨back, hback⟩ := List.rdropWhile_prefix (fun c => decide (c = '/')) suffix
    rw [hd] at hback
    rcases h with rfl | h
    · cases hback
    · rw [← hback] at h
      exact .inr h

/-- The address that is asked for the sessions, read. -/
theorem read_listingUrl (h : suffix = [] ∨ suffix.head? = some '/') :
    Address.read (Service.ofUrl (server.url ++ String.ofList suffix) timeout).listingUrl =
      .ok (server.below (keptOf suffix ++ (listingPath ++ '?' :: listingQuery))) := by
  have hfirst : (suffix.rdropWhile (· = '/') ++ (listingPath ++ '?' :: listingQuery)).head? =
      some '/' := by
    rw [List.head?_append]
    rcases rdropWhile_begins h with h | h
    · rw [h]
      rfl
    · rw [h]
      rfl
  have hlast : ∀ c ∈ (suffix.rdropWhile (· = '/') ++
      (listingPath ++ '?' :: listingQuery)).getLast?, ' ' < c := by
    intro c hc
    rw [List.getLast?_append] at hc
    obtain rfl : 'g' = c := Option.some.inj hc
    decide
  rw [Service.listingUrl_ofUrl, server.read_append hfirst hlast, List.filter_append]
  rfl

/-- A request goes to the server of the address that is asked for, unless it does not fit into a
request. -/
theorem destination_ofUrl (h : suffix = [] ∨ suffix.head? = some '/') :
    let address := (server.below (keptOf suffix ++ (listingPath ++ '?' :: listingQuery)))
      |>.withoutCredentials
    (Service.ofUrl (server.url ++ String.ofList suffix) timeout).destination =
      if address.isSendable then .ok ⟨address, server.authority.credentials?⟩
      else .error (Service.refused address "Parsed Url is not a valid Uri") := by
  intro address
  have hhost : address.host? ≠ none := by
    have hname : server.authority.withoutCredentials.host = server.authority.host := by
      rw [Address.Authority.withoutCredentials]
      split <;> rfl
    show Option.filter _ (some server.authority.withoutCredentials.host) ≠ none
    rw [hname]
    exact Option.ne_none_iff_exists'.mpr
      ⟨_, Option.filter_eq_some_iff.mpr ⟨rfl, decide_eq_true server.host_ne⟩⟩
  have hallowed : ¬(address.host? = none ∨
      (address.scheme ≠ "http" ∧ address.scheme ≠ "https")) := by
    rintro (hnone | ⟨hhttp, hhttps⟩)
    · exact hhost hnone
    · exact server.isWeb.elim hhttp hhttps
  rw [Service.destination, read_listingUrl server timeout h]
  show (if address.host? = none ∨ (address.scheme ≠ "http" ∧ address.scheme ≠ "https") then _
    else if ¬address.isSendable = true then _ else _) = _
  rw [if_neg hallowed, ite_not]
  rfl

/-! ## Suffixes with and without a mark -/

theorem keptOf_begins (h : suffix = [] ∨ suffix.head? = some '/') :
    keptOf suffix = [] ∨ (keptOf suffix).head? = some '/' := by
  rcases rdropWhile_begins h with hkept | hkept
  · exact .inl (by rw [keptOf, hkept, List.filter_nil])
  · obtain ⟨rest, hrest⟩ := List.head?_eq_some_iff.mp hkept
    exact .inr (by rw [keptOf, hrest]; rfl)

theorem endsPath_of_mem_keptOf (h : ∀ c ∈ suffix, endsPath c = false) :
    ∀ c ∈ keptOf suffix, endsPath c = false := by
  intro c hc
  have hmem := List.mem_of_mem_filter hc
  exact h c ((List.rdropWhile_prefix (fun c => decide (c = '/')) suffix).subset hmem)

theorem keptOf_append_mark (path rest : List Char) {mark : Char} (hmark : endsPath mark = true) :
    keptOf (path ++ mark :: rest) = path.filter counts ++ mark :: keptOf rest := by
  have hslash : decide (mark = '/') = false := decide_eq_false (by rintro rfl; cases hmark)
  have hcounts : counts mark = true := by
    rcases (Bool.or_eq_true _ _).mp hmark with hm | hm
    · rw [of_decide_eq_true hm]
      rfl
    · rw [of_decide_eq_true hm]
      rfl
  have hlast : ∀ c ∈ (path ++ [mark]).getLast?, decide (c = '/') = false := by
    intro c hc
    rw [List.getLast?_concat] at hc
    exact Option.some.inj hc ▸ hslash
  rw [keptOf, List.append_cons, Address.rdropWhile_append hlast, List.filter_append,
    List.filter_append, List.filter_singleton, hcounts, List.append_assoc]
  rfl

/-- Without a mark in front of it, the listing is what is asked for. -/
theorem below_listing (h : suffix = [] ∨ suffix.head? = some '/')
    (hfree : ∀ c ∈ suffix, endsPath c = false) :
    ∃ front, (server.below (keptOf suffix ++ (listingPath ++ '?' :: listingQuery))).path =
        front ++ "/api/v1/sessions" ∧
      (server.below (keptOf suffix ++ (listingPath ++ '?' :: listingQuery))).query =
        some "status=running" := by
  have hends : ∀ c ∈ keptOf suffix ++ listingPath, endsPath c = false := by
    intro c hc
    rcases List.mem_append.mp hc with hc | hc
    · exact endsPath_of_mem_keptOf hfree c hc
    · exact List.all_iff_forall_prop.mp (by decide : listingPath.all (endsPath · = false)) c hc
  have hmark : ∀ c ∈ ('?' :: listingQuery).head?, endsPath c = true := by
    intro c hc
    exact Option.some.inj hc ▸ rfl
  have hpath : ∃ reached, Address.Path.write (Address.Path.segmentsBehindHost (.ofScheme server.scheme)
      (keptOf suffix ++ listingPath)) = reached ++ listingPath := by
    have hform : Form.ofScheme server.scheme ≠ .file := by
      obtain ⟨port, hport⟩ := server.exists_form
      rw [hport]
      exact nofun
    have hpieces : Address.Path.pieces (.ofScheme server.scheme) "api/v1/sessions".toList =
        ["api".toList, "v1".toList, "sessions".toList] := by
      rcases server.isWeb with hweb | hweb <;> rw [hweb] <;> decide +kernel
    have hplain : ∀ segment ∈ Address.Path.pieces (.ofScheme server.scheme) "api/v1/sessions".toList,
        Address.Path.IsPlain segment := by
      rw [hpieces]
      simp only [List.forall_mem_cons, Address.Path.IsPlain]
      decide +kernel
    obtain ⟨reached, hreached⟩ := Address.Path.exists_write_append hform (keptOf_begins h) hplain
    rw [hpieces] at hreached
    exact ⟨reached, hreached⟩
  obtain ⟨reached, hreached⟩ := hpath
  refine ⟨String.ofList reached, ?_, ?_⟩
  · have hlisting : String.ofList listingPath = "/api/v1/sessions" := by decide +kernel
    rw [← List.append_assoc, server.below_path hends hmark, hreached, String.ofList_append, hlisting]
  · rw [← List.append_assoc, server.below_query hends hmark]
    rcases server.isWeb with hweb | hweb <;> rw [hweb] <;> decide +kernel

/-- Behind a mark, the listing is in the query or in nothing that is asked for. -/
theorem below_mark (path rest : List Char) {mark : Char} (hfree : ∀ c ∈ path, endsPath c = false)
    (hmark : endsPath mark = true) :
    (server.below (keptOf (path ++ mark :: rest) ++ (listingPath ++ '?' :: listingQuery))).path =
        String.ofList (Address.Path.write (Address.Path.segmentsBehindHost (.ofScheme server.scheme)
          (path.filter counts))) ∧
      (server.below (keptOf (path ++ mark :: rest) ++ (listingPath ++ '?' :: listingQuery))).query =
        if mark = '?' then some (String.ofList (encodeUnless (Form.ofScheme server.scheme).inQuery
          ((keptOf rest ++ (listingPath ++ '?' :: listingQuery)).takeWhile (!· = '#'))))
        else none := by
  have hkept : ∀ c ∈ path.filter counts, endsPath c = false := fun c hc =>
    hfree c (List.mem_of_mem_filter hc)
  have hhead : ∀ c ∈ (mark :: (keptOf rest ++ (listingPath ++ '?' :: listingQuery))).head?,
      endsPath c = true := fun c hc => Option.some.inj hc ▸ hmark
  rw [keptOf_append_mark path rest hmark, List.append_assoc, List.cons_append]
  refine ⟨server.below_path hkept hhead, ?_⟩
  rw [server.below_query hkept hhead]
  rcases (Bool.or_eq_true _ _).mp hmark with hm | hm
  · obtain rfl : mark = '?' := of_decide_eq_true hm
    rfl
  · obtain rfl : mark = '#' := of_decide_eq_true hm
    rfl

/-! ## The request -/

theorem requestLine_of_listing {address : Address} {front : String}
    (hpath : address.path = front ++ "/api/v1/sessions")
    (hquery : address.query = some "status=running") :
    address.requestLine = "GET " ++ front ++ "/api/v1/sessions?status=running HTTP/1.1" := by
  have hline : "/api/v1/sessions?status=running HTTP/1.1" =
      "/api/v1/sessions" ++ ("?" ++ "status=running") ++ " HTTP/1.1" := by decide +kernel
  rw [Address.requestLine, Address.target, hpath, hquery, hline]
  simp only [Option.map_some, Option.getD_some, String.append_assoc]

/-- A request goes to the server whose address the service has, and asks for the listing if nothing
in the text behind the server ends its path. Otherwise it asks for the path in front of the mark, and
the listing stands behind the mark: in the query, up to its end, or nowhere. -/
theorem listing_target (suffix : List Char) (h : suffix = [] ∨ suffix.head? = some '/') :
    ∃ address : Address,
      (Service.ofUrl (server.url ++ String.ofList suffix) timeout).destination =
        (if address.isSendable then .ok ⟨address, server.authority.credentials?⟩
        else .error (Service.refused address "Parsed Url is not a valid Uri")) ∧
      address.scheme = server.scheme ∧
      address.authority = some server.authority.withoutCredentials ∧
      ((∀ c ∈ suffix, endsPath c = false) →
        ∃ front, address.path = front ++ "/api/v1/sessions" ∧
          address.query = some "status=running" ∧
          address.requestLine = "GET " ++ front ++ "/api/v1/sessions?status=running HTTP/1.1") ∧
      ∀ path mark rest, suffix = path ++ mark :: rest → (∀ c ∈ path, endsPath c = false) →
        endsPath mark = true →
        address.path = String.ofList (Address.Path.write
          (Address.Path.segmentsBehindHost (.ofScheme server.scheme) (path.filter counts))) ∧
        address.query =
          if mark = '?' then some (String.ofList (encodeUnless (Form.ofScheme server.scheme).inQuery
            ((keptOf rest ++ (listingPath ++ '?' :: listingQuery)).takeWhile (!· = '#'))))
          else none := by
  refine ⟨_, destination_ofUrl server timeout h, rfl, rfl, fun hfree => ?_, ?_⟩
  · obtain ⟨front, hpath, hquery⟩ := below_listing server h hfree
    exact ⟨front, hpath, hquery, requestLine_of_listing hpath hquery⟩
  · rintro path mark rest rfl hfree hmark
    exact below_mark server path rest hfree hmark

end

/-- The server that a service is looked for at unless told otherwise. -/
def localServer : Server where
  scheme := "http"
  place := "localhost:8080".toList
  authority := ⟨"", none, "localhost", some 8080⟩
  isWeb := .inl rfl
  isPlain := List.all_iff_forall_prop.mp (by decide +kernel)
  isRead := by decide +kernel

theorem eq_ok_of_ite {ε α : Type} {p : Prop} [Decidable p] {result : Except ε α} {a : α} {e : ε}
    (h : result = if p then .ok a else .error e) (hok : result.toOption.isSome = true) :
    result = .ok a := by
  split at h
  · exact h
  · rw [h] at hok
    cases hok

/-- What is left out or resolved does not matter to the listing; a mark does. -/
theorem listing_target_localServer :
    (∃ destination front, (Service.ofUrl (localServer.url ++ String.ofList
        "/a b/%2E.\\c/.//".toList) 10000).destination = .ok destination ∧
      destination.address.requestLine =
        "GET " ++ front ++ "/api/v1/sessions?status=running HTTP/1.1") ∧
    ∃ destination, (Service.ofUrl (localServer.url ++ String.ofList
        "/a/../b#c".toList) 10000).destination = .ok destination ∧
      destination.address.path = "/b" ∧ destination.address.query = none := by
  refine ⟨?_, ?_⟩
  · obtain ⟨address, hdestination, -, -, hlisting, -⟩ :=
      listing_target localServer 10000 "/a b/%2E.\\c/.//".toList (.inr (by decide))
    obtain ⟨front, -, -, hline⟩ := hlisting (List.all_iff_forall_prop.mp (by decide))
    exact ⟨_, front, eq_ok_of_ite hdestination (by decide +kernel), hline⟩
  · obtain ⟨address, hdestination, -, -, -, hmark⟩ :=
      listing_target localServer 10000 "/a/../b#c".toList (.inr (by decide))
    obtain ⟨hpath, hquery⟩ := hmark "/a/../b".toList '#' ['c'] (by decide)
      (List.all_iff_forall_prop.mp (by decide)) rfl
    exact ⟨_, eq_ok_of_ite hdestination (by decide +kernel), hpath.trans (by decide +kernel), hquery⟩

/-- A request does not ask for the listing behind every address of a server. -/
theorem not_forall_asks_for_listing :
    ¬∀ (server : Server) (timeout : Nat) (suffix : List Char),
      suffix = [] ∨ suffix.head? = some '/' → ∀ destination,
        (Service.ofUrl (server.url ++ String.ofList suffix) timeout).destination =
          .ok destination →
        (∃ front, destination.address.path = front ++ "/api/v1/sessions") ∧
          destination.address.query = some "status=running" := by
  intro h
  have hquery : ((Service.ofUrl (localServer.url ++ String.ofList "/?x=1".toList)
      10000).destination.toOption.bind (·.address.query)) =
        some "x=1/api/v1/sessions?status=running" := by decide +kernel
  cases hd : (Service.ofUrl (localServer.url ++ String.ofList "/?x=1".toList) 10000).destination with
  | error e =>
    rw [hd] at hquery
    cases hquery
  | ok destination =>
    rw [hd] at hquery
    have hlisting := (h localServer 10000 "/?x=1".toList (.inr (by decide)) destination hd).2
    have : some "status=running" = some "x=1/api/v1/sessions?status=running" :=
      hlisting.symm.trans hquery
    exact absurd this (by decide)

end SessionInventory
