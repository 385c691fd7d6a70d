import SessionInventory.Proofs.Text.Pieces
import SessionInventory.Settings

/-!
# What an environment sets

A variable that is set, be it to nothing, is read as far as it is text, and no other variable has a
part in what it gives (`setting_eq_of_set`, `setting_congr`). The home directory is the one that its
variable names, if it names any, whatever is on record (`home?_of_set`). The default key file is put
below the home directory before the bytes are read; as a slash is ASCII, the directory may as well be
read alone, even if it ends within a character (`decodeLossy_below`).

`ofEnvironment_reads_variables` says so of all settings, and what is read of bytes: what they are
read as piece by piece, which for the bytes of a text is the text.
-/

namespace SessionInventory

/-- A text in a directory is read apart from the bytes of the directory. -/
theorem Utf8.decodeLossy_append_slash (directory : List UInt8) (text : String) :
    decodeLossy (directory ++ 0x2F :: encode text) = decodeLossy directory ++ "/" ++ text := by
  have hascii : (0x2F : UInt8) < 0x80 := by decide
  have htext : decodeFrom none (encode text) = text.toList := by
    rw [← String.toList_ofList (l := decodeFrom none (encode text))]
    exact congrArg String.toList (decodeLossy_encode text)
  refine String.toList_injective ?_
  rw [decodeLossy, decodeFrom_append_ascii none directory hascii, htext]
  simp only [decodeLossy, String.toList_append, String.toList_ofList, List.append_assoc]
  rfl

/-- What is on record does not count while the variable names a home directory. -/
theorem Environment.home?_of_set {environment : Environment} {home : List UInt8}
    (hhome : environment "HOME" = some home) (hne : home ≠ []) :
    environment.home? = some home := by
  have hfilter : (some home).filter (· ≠ []) = some home := by simp [Option.filter, hne]
  rw [home?, hhome, hfilter]
  rfl

namespace Settings

open Utf8 (decodeLossy encode ReadsAs)

/-- A directory and a path below it are read with a slash between them, unless that ends the
directory. -/
theorem decodeLossy_below (directory : List UInt8) (path : String) :
    decodeLossy (below directory (encode path)) =
      decodeLossy directory ++ (if directory.getLast? = some 0x2F then "" else "/") ++ path := by
  by_cases h : directory.getLast? = some 0x2F
  · obtain ⟨front, rfl⟩ := List.getLast?_eq_some_iff.mp h
    have hfront : decodeLossy (front ++ [0x2F]) = decodeLossy front ++ "/" := by
      have hslash := Utf8.decodeLossy_append_slash front ""
      rwa [String.append_empty, show encode "" = [] from rfl] at hslash
    rw [below, if_pos h, if_pos h, List.append_assoc, List.singleton_append,
      Utf8.decodeLossy_append_slash, hfront, String.append_empty]
  · rw [below, if_neg h, if_neg h, Utf8.decodeLossy_append_slash]

/-- The variables, each with the setting that it is for. -/
def bySetting : List (String × (Settings → String)) :=
  [("GPU_SHOPPER_URL", apiUrl), ("SSH_KEY_PATH", keyPath), ("SSH_USER", user)]

section

variable {environment other : Environment} {name : String} {setting : Settings → String}
  (hv : (name, setting) ∈ bySetting)

include hv

theorem setting_eq_of_set {bytes : List UInt8} (h : environment name = some bytes) :
    setting (ofEnvironment environment) = decodeLossy bytes := by
  simp only [bySetting, List.mem_cons, List.not_mem_nil, or_false, Prod.mk.injEq] at hv
  rcases hv with ⟨rfl, rfl⟩ | ⟨rfl, rfl⟩ | ⟨rfl, rfl⟩
  all_goals
    simp only [ofEnvironment, resolve, h]
    rfl

/-- A setting depends on its own variable and on the home directory only. -/
theorem setting_congr (h : other name = environment name)
    (hhome : other.home? = environment.home?) :
    setting (ofEnvironment other) = setting (ofEnvironment environment) := by
  simp only [bySetting, List.mem_cons, List.not_mem_nil, or_false, Prod.mk.injEq] at hv
  rcases hv with ⟨rfl, rfl⟩ | ⟨rfl, rfl⟩ | ⟨rfl, rfl⟩
  all_goals simp only [ofEnvironment, resolve, h, hhome]

end

theorem keyPath_of_unset {environment : Environment} {home : List UInt8}
    (hhome : environment "HOME" = some home) (hne : home ≠ [])
    (h : environment "SSH_KEY_PATH" = none) :
    (ofEnvironment environment).keyPath = decodeLossy home ++
      (if home.getLast? = some 0x2F then "" else "/") ++ ".ssh/id_rsa" := by
  obtain ⟨b, rest, rfl⟩ := List.exists_cons_of_ne_nil hne
  have hdefault : (ofEnvironment environment).keyPath =
      decodeLossy (below (b :: rest) (encode keyInHome)) := by
    simp only [ofEnvironment, resolve, h, Environment.home?_of_set hhome hne]
    rfl
  rw [hdefault, decodeLossy_below]
  rfl

/-- With a home directory, the settings are those that come of the variables read as far as they are
text, and this is how they are read: piece by piece, the bytes of a text as the text. A variable that
is set gives its setting, and the other variables have no part in it. A key path that is not set is
the key file in the home directory, with a slash between them unless that ends the directory. -/
theorem ofEnvironment_reads_variables {environment : Environment} {home : List UInt8}
    (hhome : environment "HOME" = some home) (hne : home ≠ []) :
    let settings := ofEnvironment environment
    settings = resolve (fun name => (environment name).map decodeLossy) (some home) ∧
    (∀ bytes text, decodeLossy bytes = text ↔ ReadsAs bytes text.toList) ∧
    (∀ name setting, (name, setting) ∈ bySetting →
      (∀ bytes, environment name = some bytes → setting settings = decodeLossy bytes) ∧
      (∀ text, environment name = some (encode text) → setting settings = text) ∧
      ∀ other : Environment, other name = environment name → other "HOME" = some home →
        setting (ofEnvironment other) = setting settings) ∧
    (environment "GPU_SHOPPER_URL" = none → settings.apiUrl = "http://localhost:8080") ∧
    (environment "SSH_USER" = none → settings.user = "root") ∧
    (environment "SSH_KEY_PATH" = none → settings.keyPath =
      decodeLossy home ++ (if home.getLast? = some 0x2F then "" else "/") ++ ".ssh/id_rsa") := by
  intro settings
  have hset : environment.home? = some home := Environment.home?_of_set hhome hne
  refine ⟨by rw [← hset]; rfl, fun bytes text => ?_, fun name setting hv => ⟨?_, ?_, ?_⟩,
    fun h => ?_, fun h => ?_, keyPath_of_unset hhome hne⟩
  · rw [Utf8.readsAs_iff, decodeLossy]
    constructor
    · rintro rfl
      exact String.toList_ofList.symm
    · intro h
      rw [h, String.ofList_toList]
  · exact fun bytes h => setting_eq_of_set hv h
  · intro text h
    rw [setting_eq_of_set hv h, Utf8.decodeLossy_encode]
  · intro other h hother
    exact setting_congr hv h ((Environment.home?_of_set hother hne).trans hset.symm)
  · show (ofEnvironment environment).apiUrl = _
    simp only [ofEnvironment, resolve, h]
    rfl
  · show (ofEnvironment environment).user = _
    simp only [ofEnvironment, resolve, h]
    rfl

/-- An environment with a home directory that ends within a character, an address that is no text,
and no user. -/
def cutHome : Environment where
  value?
    | "HOME" => some [0x2F, 0x68, 0xE2, 0x82]
    | "GPU_SHOPPER_URL" => some [0xC0, 0xAF]
    | "SSH_USER" => some []
    | _ => none
  recordedHome := some [0x2F]

/-- Bytes that are no text are read as U+FFFD, in the home directory as well, and a user that is set to
nothing is empty. -/
theorem ofEnvironment_cutHome :
    cutHome "HOME" = some [0x2F, 0x68, 0xE2, 0x82] ∧ [0x2F, 0x68, 0xE2, 0x82] ≠ ([] : List UInt8) ∧
    (ofEnvironment cutHome).apiUrl = "\uFFFD\uFFFD" ∧ (ofEnvironment cutHome).user = "" ∧
    (ofEnvironment cutHome).keyPath = "/h\uFFFD/.ssh/id_rsa" := by
  have hne : [0x2F, 0x68, 0xE2, 0x82] ≠ ([] : List UInt8) := List.cons_ne_nil _ _
  have hhome : cutHome "HOME" = some [0x2F, 0x68, 0xE2, 0x82] := rfl
  obtain ⟨-, -, hset, -, -, hkey⟩ := ofEnvironment_reads_variables hhome hne
  have hurl := (hset "GPU_SHOPPER_URL" apiUrl List.mem_cons_self).1 [0xC0, 0xAF] rfl
  have huser := (hset "SSH_USER" user (by simp [bySetting])).1 [] rfl
  refine ⟨hhome, hne, hurl.trans ?_, huser.trans ?_, (hkey rfl).trans ?_⟩
  all_goals decide

end Settings

end SessionInventory
