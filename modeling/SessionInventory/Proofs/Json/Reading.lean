import SessionInventory.Json.Reader.Basic
import SessionInventory.Proofs.Json.Grammar

/-!
# What readers make of a text

`bare` is what a reader made of a text without the place of a flaw and without proofs, and `andThen`
goes on with it. In these terms every reader has an equation, and what it reads is taken apart by
`exists_of_andThen`.

Blanks are what is skipped between tokens (`exists_blank_append`), and a number ends where a text
`Stops`.
-/

namespace SessionInventory.Json

variable {α : Type}

/-! ## Outcomes -/

/-- What a reader made of a text: what it read and what is left, or what is wrong. -/
def bare {P : List Char → Prop} :
    Except Fault (α × { rest : List Char // P rest }) → Except Flaw (α × List Char)
  | .error fault => .error fault.flaw
  | .ok (a, rest) => .ok (a, rest.1)

section

variable {P : List Char → Prop}

@[simp] theorem bare_error (fault : Fault) :
    bare (.error fault : Except Fault (α × { rest : List Char // P rest })) = .error fault.flaw := rfl

@[simp] theorem bare_ok (a : α) (rest : { rest : List Char // P rest }) :
    bare (.ok (a, rest)) = .ok (a, rest.1) := rfl

theorem exists_of_bare_ok {outcome : Except Fault (α × { rest : List Char // P rest })} {a : α}
    {rest : List Char} (h : bare outcome = .ok (a, rest)) : ∃ hp, outcome = .ok (a, ⟨rest, hp⟩) := by
  cases outcome with
  | error fault => cases h
  | ok p =>
    cases h
    exact ⟨p.2.2, rfl⟩

theorem exists_of_bare_error {outcome : Except Fault (α × { rest : List Char // P rest })}
    {flaw : Flaw} (h : bare outcome = .error flaw) :
    ∃ fault, outcome = .error fault ∧ fault.flaw = flaw := by
  cases outcome with
  | error fault => exact ⟨fault, rfl, Except.error.inj h⟩
  | ok p => cases h

end

theorem length_lt_of_bare {reader : Reader α} {text rest : List Char} {a : α}
    (h : bare (reader text) = .ok (a, rest)) : rest.length < text.length :=
  (exists_of_bare_ok h).1

/-- Goes on with what was read and what is left, if anything was read. -/
def andThen {β : Type} (outcome : Except Flaw (α × List Char))
    (next : α → List Char → Except Flaw β) : Except Flaw β :=
  match outcome with
  | .error flaw => .error flaw
  | .ok (a, rest) => next a rest

section

variable {β : Type} {next : α → List Char → Except Flaw β}

@[simp] theorem andThen_error (flaw : Flaw) : andThen (.error flaw) next = .error flaw := rfl

@[simp] theorem andThen_ok (a : α) (rest : List Char) :
    andThen (.ok (a, rest)) next = next a rest := rfl

theorem andThen_ite (c : Prop) [Decidable c] (a : α) (rest : List Char) (flaw : Flaw) :
    andThen (if c then .ok (a, rest) else .error flaw) next =
      if c then next a rest else .error flaw := by
  split <;> rfl

theorem exists_of_andThen {outcome : Except Flaw (α × List Char)} {b : β}
    (h : andThen outcome next = .ok b) :
    ∃ a rest, outcome = .ok (a, rest) ∧ next a rest = .ok b := by
  cases outcome with
  | error flaw => cases h
  | ok p => exact ⟨p.1, p.2, rfl, h⟩

end

/-! ## Blanks -/

theorem isBlank_iff {c : Char} : isBlank c = true ↔ c = ' ' ∨ c = '\t' ∨ c = '\n' ∨ c = '\r' := by
  simp only [isBlank, Bool.or_eq_true, decide_eq_true_eq]
  grind

theorem Blank.nil : Blank [] := fun _ h => absurd h List.not_mem_nil

theorem Blank.append {a b : List Char} (ha : Blank a) (hb : Blank b) : Blank (a ++ b) :=
  fun c hc => (List.mem_append.mp hc).elim (ha c) (hb c)

/-- What is left without the blanks at the front. -/
theorem exists_skipBlanks (text : List Char) :
    ∃ left, skipBlanks text = left ∧ text.dropWhile isBlank = left.1 := ⟨_, rfl, rfl⟩

theorem dropWhile_blank_append {b : List Char} (hb : Blank b) (text : List Char) :
    (b ++ text).dropWhile isBlank = text.dropWhile isBlank :=
  List.dropWhile_append_of_pos fun c hc => isBlank_iff.mpr (hb c hc)

/-- A text is blanks and what is left without them. -/
theorem exists_blank_append (text : List Char) :
    ∃ b, Blank b ∧ text = b ++ text.dropWhile isBlank := by
  refine ⟨text.takeWhile isBlank, fun c hc => ?_, (List.takeWhile_append_dropWhile).symm⟩
  exact isBlank_iff.mp (List.all_eq_true.mp List.all_takeWhile c hc)

theorem blank_of_dropWhile_eq_nil {text : List Char} (h : text.dropWhile isBlank = []) :
    Blank text := by
  obtain ⟨b, hb, ht⟩ := exists_blank_append text
  rwa [ht, h, List.append_nil]

theorem exists_of_dropWhile_eq_cons {text rest : List Char} {c : Char}
    (h : text.dropWhile isBlank = c :: rest) : ∃ b, Blank b ∧ text = b ++ c :: rest := by
  obtain ⟨b, hb, ht⟩ := exists_blank_append text
  exact ⟨b, hb, h ▸ ht⟩

/-! ## Ends of numbers -/

/-- A text with which no number goes on. -/
def Stops (text : List Char) : Prop :=
  ∀ c ∈ text.head?, c.isDigit = false ∧ c ≠ '.' ∧ c ≠ 'e' ∧ c ≠ 'E'

theorem Stops.nil : Stops [] := fun _ h => by simp at h

theorem Stops.blank_append {b text : List Char} (hb : Blank b) (h : Stops text) :
    Stops (b ++ text) := by
  cases b with
  | nil => exact h
  | cons c b =>
    intro d hd
    obtain rfl : c = d := by simpa using hd
    rcases hb c List.mem_cons_self with rfl | rfl | rfl | rfl <;> decide

theorem Stops.comma (rest : List Char) : Stops (',' :: rest) := by
  intro c hc
  obtain rfl : ',' = c := by simpa using hc
  decide

end SessionInventory.Json
