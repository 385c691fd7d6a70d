/-!
# Names in ASCII

A label with other characters is written in ASCII as its ASCII characters, a hyphen, and a code for
the others: in rising order, each is given by how many steps lie between it and the one before it,
where a step goes to the next place in the label and from its end to the next character. The steps
are numbers of varying length in base 36, the last digit of which is below a threshold that adapts to
the numbers so far.
-/

namespace SessionInventory.Address.Punycode

/-- The base of the code. -/
def base : Nat := 36

/-- The value of a digit of the code. -/
def digit? (c : Char) : Option Nat :=
  if 'a' ≤ c ∧ c ≤ 'z' then some (c.toNat - 'a'.toNat)
  else if '0' ≤ c ∧ c ≤ '9' then some (c.toNat - '0'.toNat + 26)
  else none

/-- The digit of a value. -/
def digitChar (n : Nat) : Char :=
  if n < 26 then Char.ofNat ('a'.toNat + n) else Char.ofNat ('0'.toNat + (n - 26))

/-- The threshold below which a digit is the last; `place` grows by the base with every digit. -/
def threshold (place bias : Nat) : Nat := min 26 (max 1 (place - bias))

theorem threshold_pos (place bias : Nat) : 1 ≤ threshold place bias := by
  simp only [threshold]
  omega

/-- Divides a number down to what three digits hold, and counts the digits. -/
def scaleDown (n places : Nat) : Nat :=
  if 455 < n then scaleDown (n / 35) (places + base) else places + base * n / (n + 38)
termination_by n
decreasing_by omega

/-- The bias behind a number of steps, given how many characters there are by now. -/
def adapt (steps count : Nat) (isFirst : Bool) : Nat :=
  let n := if isFirst then steps / 700 else steps / 2
  scaleDown (n + n / count) 0

/-- The first character that is coded. -/
def firstCoded : Nat := 0x80

/-- The bias before any number. -/
def firstBias : Nat := 72

/-! ## Reading -/

/-- The numbers that can be read are below this. -/
def limit : Nat := 0x100000000

/-- Reads a number, of which the digits so far make up `value`, and the code behind it. -/
def readNumber (bias : Nat) : (place weight value : Nat) → List Char → Option (Nat × List Char)
  | _, _, _, [] => none
  | place, weight, value, c :: rest =>
    match digit? c with
    | none => none
    | some digit =>
      let value := value + digit * weight
      let t := threshold place bias
      if limit ≤ value then none
      else if digit < t then some (value, rest)
      else if limit ≤ weight * (base - t) then none
      else readNumber bias (place + base) (weight * (base - t)) value rest

theorem length_lt_of_readNumber {bias place weight value n : Nat} {code rest : List Char}
    (h : readNumber bias place weight value code = some (n, rest)) : rest.length < code.length := by
  induction code generalizing place weight value with
  | nil => simp [readNumber] at h
  | cons c code ih =>
    simp only [readNumber] at h
    split at h
    · simp at h
    · split at h
      · simp at h
      · split at h
        · simp only [Option.some.injEq, Prod.mk.injEq] at h
          simp [← h.2]
        · split at h
          · simp at h
          · exact Nat.lt_succ_of_lt (ih h)

/-- The character of a number, if it is one. -/
def character? (n : Nat) : Option Char :=
  if n.isValidChar then some (Char.ofNat n) else none

/-- Reads the code behind the characters read so far: `last` is the character and `index` the place
from where the steps count. -/
def readCode (text : List Char) (last index bias : Nat) (isFirst : Bool) (code : List Char) :
    Option (List Char) :=
  if code = [] then some text
  else match _h : readNumber bias base 1 0 code with
    | none => none
    | some (steps, rest) =>
      let count := text.length + 1
      let target := index + steps
      match character? (last + target / count) with
      | none => none
      | some c =>
        let place := target % count
        readCode (text.take place ++ c :: text.drop place) (last + target / count) (place + 1)
          (adapt steps count isFirst) false rest
termination_by code.length
decreasing_by exact length_lt_of_readNumber _h

/-- The label that an ASCII label in small letters stands for. -/
def decode (label : List Char) : Option (List Char) :=
  if ¬label.all (·.toNat < firstCoded) then none
  else
    let code := (label.reverse.takeWhile (· ≠ '-')).reverse
    let plain := (label.take (label.length - code.length)).dropLast
    if plain = [] ∧ code.length < label.length then none
    else readCode plain firstCoded 0 firstBias true code

/-! ## Writing -/

/-- The digits of a number. -/
def writeNumber (bias place n : Nat) : List Char :=
  let t := threshold place bias
  if n < t then [digitChar n]
  else digitChar (t + (n - t) % (base - t)) :: writeNumber bias (place + base) ((n - t) / (base - t))
termination_by n
decreasing_by
  have := threshold_pos place bias
  have := Nat.div_le_self (n - threshold place bias) (base - threshold place bias)
  omega

/-- What has been written: `handled` characters, with `steps` since the last of them. -/
structure Written where
  code : List Char
  handled : Nat
  steps : Nat
  bias : Nat
  isFirst : Bool

/-- Goes to the next place of the label, where `c` stands, while `current` is the character whose
turn it is. -/
def Written.pass (w : Written) (current : Nat) (c : Char) : Written :=
  if c.toNat < current then { w with steps := w.steps + 1 }
  else if c.toNat = current then
    { code := w.code ++ writeNumber w.bias base w.steps
      handled := w.handled + 1
      steps := 0
      bias := adapt w.steps (w.handled + 1) w.isFirst
      isFirst := false }
  else w

/-- Writes the characters of a label whose turns come, in rising order, behind `last`. -/
def writeCode (label : List Char) : (turns : List Nat) → (last : Nat) → Written → Written
  | [], _, w => w
  | current :: turns, last, w =>
    let w := { w with steps := w.steps + (current - last) * (w.handled + 1) }
    let w := label.foldl (·.pass current) w
    writeCode label turns (current + 1) { w with steps := w.steps + 1 }

/-- The ASCII label that stands for a label. -/
def encode (label : List Char) : List Char :=
  let plain := label.filter (·.toNat < firstCoded)
  let turns := ((label.map Char.toNat).filter (firstCoded ≤ ·)).mergeSort.eraseDups
  let mark := if plain = [] then [] else ['-']
  plain ++ mark ++ (writeCode label turns firstCoded ⟨[], plain.length, 0, firstBias, true⟩).code

end SessionInventory.Address.Punycode
