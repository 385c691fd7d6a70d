import Mathlib.Data.List.Find
import SessionInventory.Proofs.Inventory.Entries
import SessionInventory.Proofs.Json.Printed

/-!
# The order of the sessions

A service lists its sessions in any order. As long as no key repeats, the variables of the hosts do
not depend on it (`Inventory.hostVars_perm`), and neither does the answer about a name that at most
one session answers to (`hostVars?_perm`). Of the text of an inventory, the sessions determine two
parts only (`exists_render_list`), and of these just the list of hosts follows their order.

`render_perm` compares all that is made of a list with what is made of a permutation.
-/

namespace SessionInventory

open Json

/-! ## The text of an inventory -/

namespace Inventory

/-- The text of the list of hosts. -/
def hostsText (inventory : Inventory) : List Char :=
  memberLine 2 ("hosts", .array (inventory.hosts.map .string))

/-- The text of the section with the variables of the hosts. -/
def metaText (inventory : Inventory) : List Char :=
  memberLine 1 ("_meta", .object [
    ("hostvars", .object (inventory.hostVars.map fun (key, vars) => (key, vars.document)))])

end Inventory

/-- The text of an inventory is the same for all sessions but for the list of hosts and the section
that ends it. -/
theorem exists_render_list (settings : Settings) :
    ∃ front between back : List Char, ∀ sessions,
      let inventory := Inventory.ofSessions sessions settings.keyPath settings.user
      (render .list sessions settings).toList =
        front ++ inventory.hostsText ++ between ++ inventory.metaText ++ back := by
  let groupVars : GroupVars := ⟨settings.user, settings.keyPath, unpinnedHostKeys⟩
  refine ⟨'{' :: newline 1 ++ writeString "benchmark_nodes" ++ ':' :: ' ' :: '{' :: newline 2,
    ',' :: newline 2 ++ memberLine 2 ("vars", groupVars.document) ++ newline 1 ++
      '}' :: ',' :: newline 1, newline 0 ++ ['}'], fun sessions => ?_⟩
  simp only [render, answer, Value.pretty, String.toList_ofList, Inventory.document,
    Inventory.hostsText, Inventory.metaText, memberLine, Value.writePretty, writeMemberLines,
    List.append_assoc, List.cons_append, List.nil_append]
  rfl

/-! ## Permuted sessions -/

section

variable {xs ys : List Session} (hp : xs.Perm ys)

include hp

theorem addressable_perm : (addressable xs).Perm (addressable ys) :=
  hp.filterMap _

theorem Inventory.hosts_perm (keyPath user : String) :
    (ofSessions xs keyPath user).hosts.Perm (ofSessions ys keyPath user).hosts :=
  (addressable_perm hp).map _

/-- Where no key repeats, the variables of the hosts do not depend on the order of the sessions. -/
theorem Inventory.hostVars_perm {keyPath user : String}
    (hn : (ofSessions xs keyPath user).hosts.Nodup) :
    (ofSessions xs keyPath user).hostVars = (ofSessions ys keyPath user).hostVars := by
  refine Table.ofList_eq_of_perm ((addressable_perm hp).map _) ?_
  rw [List.map_map]
  exact hn

end

/-- If at most one element of a list has a property, then all that have it are the same. -/
theorem subsingleton_of_countP_le_one {α : Type} {p : α → Bool} {l : List α} (h : l.countP p ≤ 1) :
    {x ∈ l | p x}.Subsingleton := by
  intro x hx y hy
  have hx := List.mem_filter.mpr hx
  have hy := List.mem_filter.mpr hy
  rw [List.countP_eq_length_filter] at h
  rcases Nat.le_one_iff_eq_zero_or_eq_one.mp h with h | h
  · rw [List.length_eq_zero_iff.mp h] at hx
    exact absurd hx List.not_mem_nil
  · obtain ⟨z, hz⟩ := List.length_eq_one_iff.mp h
    rw [hz, List.mem_singleton] at hx hy
    rw [hx, hy]

/-- The answer about a name that at most one session answers to does not depend on the order of the
sessions. -/
theorem hostVars?_perm {xs ys : List Session} (hp : xs.Perm ys) {name : String}
    (h : (xs.filterMap Session.endpoint?).countP (fun e => e.key = name || e.host = name) ≤ 1) :
    hostVars? name xs = hostVars? name ys := by
  rw [← endpoints_addressable, List.countP_map] at h
  exact List.find?_eq_find?_of_perm (addressable_perm hp) (subsingleton_of_countP_le_one h)

/-- What the order of the sessions makes a difference to, if no key repeats: neither the variables of
the hosts nor the section of the text with them, but the list of hosts, of which it changes the order
and nothing else. The rest of the text is the same, and so is the answer about every name that at
most one addressable session has as its key or its host. -/
theorem render_perm {xs ys : List Session} (hp : xs.Perm ys)
    (hn : (xs.filterMap fun s => s.endpoint?.map Endpoint.key).Nodup) (settings : Settings) :
    let ofXs := Inventory.ofSessions xs settings.keyPath settings.user
    let ofYs := Inventory.ofSessions ys settings.keyPath settings.user
    ofXs.hostVars = ofYs.hostVars ∧ ofXs.metaText = ofYs.metaText ∧ ofXs.hosts.Perm ofYs.hosts ∧
    (∃ front between back,
      (render .list xs settings).toList =
        front ++ ofXs.hostsText ++ between ++ ofXs.metaText ++ back ∧
      (render .list ys settings).toList =
        front ++ ofYs.hostsText ++ between ++ ofYs.metaText ++ back) ∧
    ∀ name,
      (xs.filterMap Session.endpoint?).countP (fun e => e.key = name || e.host = name) ≤ 1 →
      hostVars? name xs = hostVars? name ys ∧
      render (.host name) xs settings = render (.host name) ys settings := by
  intro ofXs ofYs
  have hhosts : ofXs.hosts.Nodup := by
    rwa [← keys_addressable] at hn
  have hvars : ofXs.hostVars = ofYs.hostVars := Inventory.hostVars_perm hp hhosts
  refine ⟨hvars, ?_, Inventory.hosts_perm hp _ _, ?_, fun name h => ?_⟩
  · simp only [Inventory.metaText, hvars]
  · obtain ⟨front, between, back, htext⟩ := exists_render_list settings
    exact ⟨front, between, back, htext xs, htext ys⟩
  · have hname := hostVars?_perm hp h
    exact ⟨hname, by simp only [render, answer, hname]⟩

/-- Two sessions on one host, and one that is not addressable between them. -/
def Session.neighbours : List Session :=
  [{ Session.blank with host := some "gpu", port := some 2222 }, Session.blank,
    { Session.blank with host := some "gpu" }]

/-- The other way round they make the same table, and have the same answer to the key that one of
them has, but not to the host that they share. -/
theorem hostVars?_neighbours_reverse :
    Session.neighbours.Perm Session.neighbours.reverse ∧
    (Session.neighbours.filterMap fun s => s.endpoint?.map Endpoint.key).Nodup ∧
    (Inventory.ofSessions Session.neighbours "key" "root").hostVars =
      (Inventory.ofSessions Session.neighbours.reverse "key" "root").hostVars ∧
    hostVars? "gpu_2222" Session.neighbours = hostVars? "gpu_2222" Session.neighbours.reverse ∧
    (hostVars? "gpu" Session.neighbours).map (·.endpoint.port) = some 2222 ∧
    (hostVars? "gpu" Session.neighbours.reverse).map (·.endpoint.port) = some 22 := by
  have hp := (List.reverse_perm Session.neighbours).symm
  have hn : (Session.neighbours.filterMap fun s => s.endpoint?.map Endpoint.key).Nodup := by decide
  obtain ⟨hvars, -, -, -, hname⟩ := render_perm hp hn ⟨"", "key", "root"⟩
  exact ⟨hp, hn, hvars, (hname "gpu_2222" (by decide)).1, rfl, rfl⟩

end SessionInventory
