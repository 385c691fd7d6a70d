import SessionInventory.Json.Reader.Number
import SessionInventory.Json.Reader.String

/-!
# Reading values

`read` takes a text that is one value with blanks around it. Containers may stand in one another up
to `nestingLimit`. `readObject` asks for an object: of any other value it says what that is, once a
scalar has been read to its end and without entering an array.
-/

namespace SessionInventory.Json

/-- How deep containers may stand in one another. -/
def nestingLimit : Nat := 127

/-- Reads a value that is no container. -/
def scalar : Reader Value
  | [] => .error (.on .endInValue [])
  | c :: rest =>
    if c = 'n' then
      match keyword ['u', 'l', 'l'] rest with
      | .error fault => .error fault
      | .ok r => .ok (.null, r.behind c)
    else if c = 't' then
      match keyword ['r', 'u', 'e'] rest with
      | .error fault => .error fault
      | .ok r => .ok (.bool true, r.behind c)
    else if c = 'f' then
      match keyword ['a', 'l', 's', 'e'] rest with
      | .error fault => .error fault
      | .ok r => .ok (.bool false, r.behind c)
    else if c = '"' then
      match string rest with
      | .error fault => .error fault
      | .ok (s, r) => .ok (.string s, r.past c)
    else if c = '-' ∨ c.isDigit then
      match number (c :: rest) with
      | .error fault => .error fault
      | .ok (n, r) => .ok (.number n, r)
    else .error (.on .expectedValue (c :: rest))

/-- Reads a member of an object: its name, a colon, and what `part` reads. -/
def member {α : Type} (part : Reader α) : Reader (String × α)
  | '"' :: rest =>
    match string rest with
    | .error fault => .error fault
    | .ok (name, ⟨behind, h⟩) =>
      match skipBlanks behind with
      | ⟨[], _⟩ => .error (.on .endInObject [])
      | ⟨c :: next, hc⟩ =>
        if c = ':' then
          match part next with
          | .error fault => .error fault
          | .ok (a, r) => .ok ((name, a), r.within (by simp only [List.length_cons] at *; omega))
        else .error (.on .expectedColon (c :: next))
  | text => .error (.on .keyNotString text)

/-- Reads an object behind its opening bracket. Its members come in key order, and of two with one
name the later stays. -/
def objectOf (part : Reader Value) : Reader (Table Value) := fun text =>
  match items .object (member part) text with
  | .error fault => .error fault
  | .ok (members, r) => .ok (Table.ofList members, r)

/-- Reads a value. What stands in a container is read by `part`; where there is none, containers are
refused. -/
def valueOf (part : Option (Reader Value)) : Reader Value := fun text =>
  match skipBlanks text with
  | ⟨[], _⟩ => .error (.on .endInValue [])
  | ⟨c :: rest, h⟩ =>
    if c = '[' then
      match part with
      | none => .error (.on .tooDeep (c :: rest))
      | some part =>
        match items .array part rest with
        | .error fault => .error fault
        | .ok (elements, r) => .ok (.array elements, r.within (Nat.le_of_succ_le h))
    else if c = '{' then
      match part with
      | none => .error (.on .tooDeep (c :: rest))
      | some part =>
        match objectOf part rest with
        | .error fault => .error fault
        | .ok (members, r) => .ok (.object members, r.within (Nat.le_of_succ_le h))
    else
      match scalar (c :: rest) with
      | .error fault => .error fault
      | .ok (v, r) => .ok (v, r.within h)

/-- Reads a value in which containers stand in one another at most `n` deep. -/
def valueWithin : (n : Nat) → Reader Value
  | 0 => valueOf none
  | n + 1 => valueOf (some (valueWithin n))

/-- What was read, if only blanks follow it. -/
def ended {α : Type} (a : α) (rest : List Char) : Except Fault α :=
  match (skipBlanks rest).1 with
  | [] => .ok a
  | rest => .error (.on .trailingCharacters rest)

/-- Reads a text that is a value. -/
def document (text : List Char) : Except Fault Value :=
  match valueWithin nestingLimit text with
  | .error fault => .error fault
  | .ok (v, r) => ended v r.1

/-- Reads a text that is an object. -/
def objectDocument (text : List Char) : Except Fault (Table Value) :=
  match (skipBlanks text).1 with
  | [] => .error (.on .endInValue [])
  | c :: rest =>
    if c = '{' then
      match objectOf (valueWithin (nestingLimit - 1)) rest with
      | .error fault => .error fault
      | .ok (members, r) => ended members r.1
    else if c = '[' then .error (.before (.mismatch (.kind .array .object)) (c :: rest))
    else
      match scalar (c :: rest) with
      | .error fault => .error fault
      | .ok (v, r) => .error (.before (.mismatch (.kind v.found .object)) r.1)

/-- Says where in the whole text a fault lies. -/
def located {α : Type} (text : String) : Except Fault α → Except ReadError α
  | .error fault => .error (fault.within text)
  | .ok a => .ok a

/-- The value that a text spells. -/
def read (text : String) : Except ReadError Value :=
  located text (document text.toList)

/-- The members of the object that a text spells. -/
def readObject (text : String) : Except ReadError (Table Value) :=
  located text (objectDocument text.toList)

end SessionInventory.Json
