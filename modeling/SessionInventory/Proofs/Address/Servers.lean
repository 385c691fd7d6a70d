import Mathlib.Data.List.DropRight
import Mathlib.Data.List.Induction
import SessionInventory.Address

/-!
# Addresses below a server

A web server has an address of its own, to which a path may be appended (`Server`). Whatever is
appended behind a slash, the address is read, and it leads to the server: only the path, the query
and the fragment come from what was appended (`Server.read_append`).
-/

namespace SessionInventory.Address

/-! ## Parts of texts -/

theorem dropWhile_of_head? {p : Char → Bool} {text : List Char}
    (h : ∀ c ∈ text.head?, p c = false) : text.dropWhile p = text := by
  cases text with
  | nil => rfl
  | cons c rest => exact List.dropWhile_cons_of_neg (Bool.eq_false_iff.mp (h c rfl))

/-- A text is cut in front of the first character that is a stop. -/
theorem cut_append {stops : Char → Bool} {front back : List Char}
    (hf : ∀ c ∈ front, stops c = false) (hb : ∀ c ∈ back.head?, stops c = true) :
    cut stops (front ++ back) = (front, back) := by
  have hgo : ∀ c ∈ front, (!stops c) = true := fun c hc => by rw [hf c hc]; rfl
  have hstop : ∀ c ∈ back.head?, (!stops c) = false := fun c hc => by rw [hb c hc]; rfl
  have htake : back.takeWhile (!stops ·) = [] := by
    cases back with
    | nil => rfl
    | cons c rest => exact List.takeWhile_cons_of_neg (Bool.eq_false_iff.mp (hstop c rfl))
  rw [cut, List.takeWhile_append_of_pos hgo, List.dropWhile_append_of_pos hgo, htake,
    dropWhile_of_head? hstop, List.append_nil]

/-- What is left out at the end of a text stands behind the last character that is kept. -/
theorem rdropWhile_append {p : Char → Bool} {front : List Char}
    (hf : ∀ c ∈ front.getLast?, p c = false) (back : List Char) :
    (front ++ back).rdropWhile p = front ++ back.rdropWhile p := by
  induction back using List.reverseRecOn with
  | nil =>
    rw [List.append_nil, List.rdropWhile_nil, List.append_nil, List.rdropWhile_eq_self_iff]
    intro hne
    exact Bool.eq_false_iff.mp (hf _ (List.getLast?_eq_some_getLast hne))
  | append_singleton back c ih =>
    rw [← List.append_assoc, List.rdropWhile_concat, List.rdropWhile_concat, ih]
    split
    · rfl
    · rw [List.append_assoc]

/-- Whether a character counts wherever it stands in an address; tabs and ends of lines do not. -/
def counts (c : Char) : Bool := c ≠ '\t' && c ≠ '\n' && c ≠ '\r'

theorem counts_of_lt {c : Char} (h : ' ' < c) : counts c = true := by
  have hne {d : Char} (hd : d ≤ ' ') : c ≠ d := fun heq =>
    absurd (heq ▸ hd) (Char.not_le.mpr h)
  simp [counts, hne (d := '\t') (by decide), hne (d := '\n') (by decide),
    hne (d := '\r') (by decide)]

/-- Whether a character ends the path of an address. -/
def endsPath (c : Char) : Bool := c = '?' || c = '#'

/-- A text that neither begins nor ends with a blank only loses characters that do not count. -/
theorem tidy_eq_filter {text : List Char} (hfirst : ∀ c ∈ text.head?, ' ' < c)
    (hlast : ∀ c ∈ text.getLast?, ' ' < c) : tidy text = text.filter counts := by
  have hwanted {c : Char} (h : ' ' < c) : decide (c ≤ ' ') = false :=
    decide_eq_false (Char.not_le.mpr h)
  show ((text.dropWhile fun c => decide (c ≤ ' ')).reverse.dropWhile
    fun c => decide (c ≤ ' ')).reverse.filter counts = text.filter counts
  rw [dropWhile_of_head? fun c hc => hwanted (hfirst c hc),
    dropWhile_of_head? fun c hc => hwanted (hlast c (List.head?_reverse ▸ hc)),
    List.reverse_reverse]

/-! ## Hosts -/

theorem webHost_ne_nil (text : List Char) : webHost text ≠ .ok [] := by
  intro h
  rw [webHost.eq_def] at h
  split at h
  · cases h
  · rename_i inside
    rw [bracketed] at h
    split at h
    · split at h
      · rw [writeIPv6] at h
        split at h <;> cases h
      · cases h
    · cases h
  · split at h
    · cases h
    · cases h
    · rename_i name hne hname
      split at h
      · split at h
        · simp [writeIPv4, List.intercalate] at h
        · cases h
      · cases h
        exact hne rfl

namespace Authority

variable {place text rest : List Char} {port : Nat} {authority : Authority}

section

variable {form : Form} {named : List Char × List Char} {asked : Option (List Char) × List Char}
  {located : List Char × Option (List Char)} (hn : cut form.endsAuthority text = named)
  (ha : splitAsker named.1 = asked) (hl : splitPort false asked.2 = located)

include hn ha hl

/-- What an authority is read as, by the parts that it is cut into. -/
theorem read_eq : read form text =
    if asked.1 = some [] ∧ asked.2 = [] ∧ named.2 ≠ [] then .error .emptyHost
    else match readHost form located.1 with
      | .error e => .error e
      | .ok host =>
        if host = [] ∧ located.2 ≠ none then .error .emptyHost
        else match readPort form.defaultPort? (located.2.getD []) with
          | .error e => .error e
          | .ok (number, pathText) =>
            let a : Authority := ⟨(splitPassword (asked.1.getD [])).1,
              (splitPassword (asked.1.getD [])).2, String.ofList host, number⟩
            if host = [] ∧ a.asker ≠ "" then .error .emptyHost else .ok (a, pathText ++ named.2) := by
  subst hn ha hl
  rfl

/-- An authority is read if nothing of it is missing and its host and its port can be read. -/
theorem read_eq_ok_iff : read form text = .ok (authority, rest) ↔
    ¬(asked.1 = some [] ∧ asked.2 = [] ∧ named.2 ≠ []) ∧
    ∃ host number pathText, readHost form located.1 = .ok host ∧
      ¬(host = [] ∧ located.2 ≠ none) ∧
      readPort form.defaultPort? (located.2.getD []) = .ok (number, pathText) ∧
      ¬(host = [] ∧ authority.asker ≠ "") ∧
      authority = ⟨(splitPassword (asked.1.getD [])).1, (splitPassword (asked.1.getD [])).2,
        String.ofList host, number⟩ ∧ rest = pathText ++ named.2 := by
  rw [read_eq hn ha hl]
  constructor
  · intro h
    split at h
    · cases h
    · rename_i hasked
      split at h
      · cases h
      · rename_i host hhost
        split at h
        · cases h
        · rename_i hnamed
          split at h
          · cases h
          · rename_i number pathText hport
            dsimp only at h
            split at h
            · cases h
            · rename_i hempty
              cases h
              exact ⟨hasked, host, number, pathText, hhost, hnamed, hport, hempty, rfl, rfl⟩
  · rintro ⟨hasked, host, number, pathText, hhost, hnamed, hport, hempty, rfl, rfl⟩
    simp only [if_neg hasked, hhost, if_neg hnamed, hport, if_neg hempty]

end

/-- An authority of the web has a host. -/
theorem host_ne_of_read (h : read (.web port) text = .ok (authority, rest)) :
    authority.host ≠ "" := by
  obtain ⟨-, host, number, pathText, hhost, -, -, -, rfl, -⟩ := (read_eq_ok_iff rfl rfl rfl).mp h
  intro hempty
  obtain rfl : host = [] := String.ofList_eq_empty_iff.mp hempty
  exact webHost_ne_nil _ hhost

/-- Where an authority of the web is followed by a path, it is read as by itself. -/
theorem read_append (hp : ∀ c ∈ place, (Form.web port).endsAuthority c = false)
    (h : read (.web port) place = .ok (authority, [])) (ht : text.head? = some '/') :
    read (.web port) (place ++ text) = .ok (authority, text) := by
  have hends : ∀ c ∈ text.head?, (Form.web port).endsAuthority c = true := by
    intro c hc
    obtain rfl : '/' = c := Option.some.inj (ht.symm.trans hc)
    rfl
  have halone : cut (Form.web port).endsAuthority place = (place, []) := by
    have hcut : cut (Form.web port).endsAuthority (place ++ []) = (place, []) := cut_append hp nofun
    rwa [List.append_nil] at hcut
  obtain ⟨-, host, number, pathText, hhost, hnamed, hport, hempty, heq, hrest⟩ :=
    (read_eq_ok_iff halone rfl rfl).mp h
  obtain rfl : pathText = [] := (List.append_eq_nil_iff.mp hrest.symm).1
  refine (read_eq_ok_iff (cut_append hp hends) rfl rfl).mpr
    ⟨fun ⟨_, hnothing, _⟩ => ?_, host, number, [], hhost, hnamed, hport, hempty, heq, rfl⟩
  -- an empty host would not have been read
  rw [hnothing] at hhost
  cases hhost

end Authority

/-! ## Servers -/

/-- A web server, by the scheme and the text that name it in an address, and what this text is read
as. -/
structure Server where
  scheme : String
  place : List Char
  authority : Authority
  isWeb : scheme = "http" ∨ scheme = "https"
  /-- Nothing in the text ends it, or is left out when it is read. -/
  isPlain : ∀ c ∈ place, ' ' < c ∧ (Form.ofScheme scheme).endsAuthority c = false
  isRead : Authority.read (.ofScheme scheme) place = .ok (authority, [])

namespace Server

variable (s : Server)

/-- The address of a server. -/
def url : String := s.scheme ++ "://" ++ String.ofList s.place

theorem toList_url : s.url.toList = s.scheme.toList ++ ':' :: '/' :: '/' :: s.place := by
  simp [url]

theorem exists_form : ∃ port, Form.ofScheme s.scheme = .web port := by
  rcases s.isWeb with h | h <;> rw [h]
  · exact ⟨80, rfl⟩
  · exact ⟨443, rfl⟩

/-- Something names a server, and it does not begin or end with a slash. -/
theorem isSlash_of_mem {c : Char} (hc : c ∈ s.place) : (Form.ofScheme s.scheme).isSlash c = false := by
  have hends := (s.isPlain c hc).2
  simp only [Form.endsAuthority, Bool.or_eq_false_iff] at hends
  exact hends.1.1

theorem place_ne_nil : s.place ≠ [] := by
  intro hnil
  obtain ⟨port, hform⟩ := s.exists_form
  have hread := s.isRead
  rw [hform, hnil] at hread
  cases hread

theorem host_ne : s.authority.host ≠ "" := by
  obtain ⟨port, hform⟩ := s.exists_form
  exact Authority.host_ne_of_read (hform ▸ s.isRead)

/-- The address of a server does not end with a slash. -/
theorem ne_slash_of_getLast?_url : ∀ c ∈ s.url.toList.getLast?, decide (c = '/') = false := by
  intro c hc
  rw [toList_url, List.append_cons, List.append_cons, List.append_cons, List.getLast?_append,
    Option.or_of_isSome (List.getLast?_isSome.mpr s.place_ne_nil)] at hc
  refine decide_eq_false fun heq => ?_
  have hslash := s.isSlash_of_mem (List.mem_of_getLast? hc)
  rw [heq] at hslash
  cases hslash

/-- The scheme is read up to its colon. -/
theorem scheme?_append (rest : List Char) :
    scheme? (s.scheme.toList ++ ':' :: rest) = some (s.scheme, rest) := by
  rcases s.isWeb with h | h <;> rw [h] <;> rfl

/-- What is appended to a server's address is left as it is when it is tidied, except for the
characters that do not count. -/
theorem tidy_append {text : List Char} (hne : text ≠ []) (hlast : ∀ c ∈ text.getLast?, ' ' < c) :
    tidy (s.url ++ String.ofList text).toList =
      s.scheme.toList ++ ':' :: '/' :: '/' :: (s.place ++ text.filter counts) := by
  have htext : (s.url ++ String.ofList text).toList =
      s.scheme.toList ++ ':' :: '/' :: '/' :: (s.place ++ text) := by
    simp [toList_url]
  have hplace : s.place.filter counts = s.place :=
    List.filter_eq_self.mpr fun c hc => counts_of_lt (s.isPlain c hc).1
  have hend : (s.scheme.toList ++ ':' :: '/' :: '/' :: (s.place ++ text)).getLast? =
      text.getLast? := by
    rw [← htext, String.toList_append, String.toList_ofList, List.getLast?_append,
      Option.or_of_isSome (List.getLast?_isSome.mpr hne)]
  rw [htext, tidy_eq_filter ?_ (hend ▸ hlast)]
  · rcases s.isWeb with h | h <;> rw [h] <;> simp [hplace, counts]
  · intro c hc
    obtain rfl : 'h' = c := by
      rcases s.isWeb with h | h <;> rw [h] at hc <;> exact Option.some.inj hc
    decide

/-- The address of what a text leads to behind a server. -/
def below (text : List Char) : Address :=
  assemble s.scheme (some s.authority)
    (Path.write (Path.segmentsBehindHost (.ofScheme s.scheme) (cutPath text).1)) (cutPath text).2

section

variable {path rest : List Char} (hp : ∀ c ∈ path, endsPath c = false)
  (hr : ∀ c ∈ rest.head?, endsPath c = true)

include hp hr

/-- The path below a server goes up to the first character that ends it. -/
theorem below_path : (s.below (path ++ rest)).path =
    String.ofList (Path.write (Path.segmentsBehindHost (.ofScheme s.scheme) path)) := by
  have hcut : cutPath (path ++ rest) = (path, rest) := cut_append hp hr
  rw [below, hcut]
  rfl

/-- The query goes up to the fragment, if what ends the path is a `?`. -/
theorem below_query : (s.below (path ++ rest)).query =
    (behind '?' (rest.takeWhile (!· = '#'))).map
      (String.ofList <| encodeUnless (Form.ofScheme s.scheme).inQuery ·) := by
  have hcut : cutPath (path ++ rest) = (path, rest) := cut_append hp hr
  rw [below, hcut]
  rfl

end

/-- What is appended to a server's address is read as what lies below the server. -/
theorem read_append {text : List Char} (hfirst : text.head? = some '/')
    (hlast : ∀ c ∈ text.getLast?, ' ' < c) :
    read (s.url ++ String.ofList text) = .ok (s.below (text.filter counts)) := by
  obtain ⟨port, hform⟩ := s.exists_form
  obtain ⟨rest, rfl⟩ := List.head?_eq_some_iff.mp hfirst
  have hslash {c : Char} (hc : c ∈ s.place) : (Form.web port).isSlash c = false :=
    hform ▸ s.isSlash_of_mem hc
  have hbehind : ('/' :: '/' :: (s.place ++ ('/' :: rest).filter counts)).dropWhile
      (Form.web port).isSlash = s.place ++ ('/' :: rest).filter counts := by
    rw [List.dropWhile_cons_of_pos rfl, List.dropWhile_cons_of_pos rfl]
    refine dropWhile_of_head? fun c hc => hslash ?_
    rw [List.head?_append, Option.or_of_isSome (List.isSome_head?.mpr s.place_ne_nil)] at hc
    exact List.mem_of_mem_head? hc
  have hauthority : Authority.read (.web port) (s.place ++ ('/' :: rest).filter counts) =
      .ok (s.authority, ('/' :: rest).filter counts) :=
    Authority.read_append (fun c hc => hform ▸ (s.isPlain c hc).2) (hform ▸ s.isRead) rfl
  rw [read, s.tidy_append (List.cons_ne_nil _ _) hlast, s.scheme?_append]
  simp only [hform, hbehind, readPlace, hauthority, below]

end Server

end SessionInventory.Address
