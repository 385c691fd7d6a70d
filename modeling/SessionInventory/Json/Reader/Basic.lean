import SessionInventory.Json.Error

/-!
# Reading from the front of a text

A reader takes a piece off the front of a text, at least one character, and hands back the rest with
the proof that it is shorter; reading many pieces ends for that reason. `items` reads what stands
between two brackets: pieces with commas between them.
-/

namespace SessionInventory.Json

/-- What is left of a text of which perhaps nothing was taken. -/
abbrev Tail (text : List Char) := { rest : List Char // rest.length ≤ text.length }

/-- What is left of a text of which something was taken. -/
abbrev Rest (text : List Char) := { rest : List Char // rest.length < text.length }

/-- A text of which nothing was taken. -/
def Tail.whole (text : List Char) : Tail text := ⟨text, Nat.le_refl _⟩

/-- What is left of a text is also left of it with a character before. -/
def Tail.past {text : List Char} (r : Tail text) (c : Char) : Tail (c :: text) :=
  ⟨r.1, Nat.le_succ_of_le r.2⟩

/-- What is left of a text behind a character that was taken. -/
def Tail.behind {text : List Char} (r : Tail text) (c : Char) : Rest (c :: text) :=
  ⟨r.1, Nat.lt_succ_of_le r.2⟩

/-- What is left of a text is also left of a longer one. -/
def Rest.within {text longer : List Char} (r : Rest text) (h : text.length ≤ longer.length) :
    Rest longer :=
  ⟨r.1, Nat.lt_of_lt_of_le r.2 h⟩

/-- What is left of a text of which something was taken is also left of it with a character
before. -/
def Rest.past {text : List Char} (r : Rest text) (c : Char) : Rest (c :: text) :=
  r.within (Nat.le_succ _)

/-- Reads a piece off the front of a text. -/
abbrev Reader (α : Type) := (text : List Char) → Except Fault (α × Rest text)

/-- The characters that may stand between tokens. -/
def isBlank (c : Char) : Bool :=
  c = ' ' || c = '\n' || c = '\t' || c = '\r'

/-- A text without the blanks at its front. -/
def skipBlanks (text : List Char) : Tail text :=
  ⟨text.dropWhile isBlank, (List.dropWhile_sublist isBlank).length_le⟩

/-- Takes the letters of a keyword. -/
def keyword : (letters text : List Char) → Except Fault (Tail text)
  | [], text => .ok (.whole text)
  | _ :: _, [] => .error (.before .endInValue [])
  | l :: letters, c :: text =>
    if c = l then
      match keyword letters text with
      | .error fault => .error fault
      | .ok rest => .ok (rest.past c)
    else .error (.on .expectedKeyword (c :: text))

/-- How a container ends, and the flaws of one that does not end or lacks a comma. -/
structure Bracket where
  close : Char
  unfinished : Flaw
  unseparated : Flaw

/-- The bracket of an array. -/
def Bracket.array : Bracket := ⟨']', .endInArray, .expectedArrayEnd⟩

/-- The bracket of an object. -/
def Bracket.object : Bracket := ⟨'}', .endInObject, .expectedObjectEnd⟩

variable {α : Type}

/-- Reads one item and those that follow it, up to and with the closing bracket. -/
def series (b : Bracket) (item : Reader α) (text : List Char) :
    Except Fault (List α × Rest text) :=
  match item text with
  | .error fault => .error fault
  | .ok (a, ⟨rest, h⟩) =>
    match skipBlanks rest with
    | ⟨[], _⟩ => .error (.on b.unfinished [])
    | ⟨c :: behind, hc⟩ =>
      have hb : behind.length < text.length := by simp only [List.length_cons] at hc; omega
      if c = b.close then .ok ([a], ⟨behind, hb⟩)
      else if c = ',' then
        match skipBlanks behind with
        | ⟨[], _⟩ => .error (.on .endInValue [])
        | ⟨d :: next, hd⟩ =>
          have hn : (d :: next).length < text.length := Nat.lt_of_le_of_lt hd hb
          if d = b.close then .error (.on .trailingComma (d :: next))
          else match series b item (d :: next) with
            | .error fault => .error fault
            | .ok (as, r) => .ok (a :: as, r.within (Nat.le_of_lt hn))
      else .error (.on b.unseparated (c :: behind))
termination_by text.length

/-- Reads the items of a container behind its opening bracket. -/
def items (b : Bracket) (item : Reader α) (text : List Char) : Except Fault (List α × Rest text) :=
  match skipBlanks text with
  | ⟨[], _⟩ => .error (.on b.unfinished [])
  | ⟨c :: rest, h⟩ =>
    if c = b.close then .ok ([], ⟨rest, Nat.lt_of_succ_le h⟩)
    else match series b item (c :: rest) with
      | .error fault => .error fault
      | .ok (as, r) => .ok (as, r.within h)

end SessionInventory.Json
