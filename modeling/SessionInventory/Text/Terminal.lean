import SessionInventory.Text.Utf8

/-!
# What a terminal would show

A text may hold sequences that a terminal takes as orders. `Terminal.shown` leaves them out, together
with the control characters other than tabs and ends of lines, so that what remains is read as it
stands and does nothing else.
-/

namespace SessionInventory.Terminal

/-- What a terminal is in the middle of reading. -/
inductive Mode where
  /-- Nothing but text. -/
  | ground
  /-- What follows ESC. -/
  | escape
  /-- The end of such a sequence. -/
  | escapeEnd
  /-- A sequence behind `ESC [`. -/
  | control
  /-- What follows `ESC P`. -/
  | device
  /-- The numbers of a sequence behind `ESC P`. -/
  | deviceNumbers
  /-- The end of the head of such a sequence. -/
  | deviceEnd
  /-- A message that is not for the screen. -/
  | message
  /-- An order to the system around the terminal. -/
  | command
  deriving DecidableEq

/-- Whether a character is within bounds. -/
def isWithin (first last c : Char) : Bool := first ≤ c && c ≤ last

/-- Whether one of the bytes of a character ends a message. -/
def endsMessage (c : Char) : Bool :=
  (Utf8.encode (String.singleton c)).contains 0x9C

/-- The mode that a character leads to. -/
def Mode.next (mode : Mode) (c : Char) : Mode :=
  if c = '\x18' ∨ c = '\x1a' then .ground
  else if c = '\x1b' then .escape
  else match mode with
    | .ground => .ground
    | .escape =>
      if isWithin ' ' '/' c then .escapeEnd
      else if c = '[' then .control
      else if c = ']' then .command
      else if c = 'P' then .device
      else if c = 'X' ∨ c = '^' ∨ c = '_' then .message
      else if isWithin '0' '~' c then .ground
      else .escape
    | .escapeEnd => if isWithin '0' '~' c then .ground else .escapeEnd
    | .control => if isWithin '@' '~' c then .ground else .control
    | .device =>
      if isWithin ' ' '/' c then .deviceEnd
      else if isWithin '0' '?' c then .deviceNumbers
      else if isWithin '@' '~' c then .message
      else .device
    | .deviceNumbers =>
      if isWithin ' ' '/' c then .deviceEnd
      else if isWithin '<' '~' c then .message
      else .deviceNumbers
    | .deviceEnd => if isWithin '0' '~' c then .message else .deviceEnd
    | .message => if endsMessage c then .ground else .message
    | .command => if c = '\x07' then .ground else .command

/-- Whether a character only moves the place of writing. -/
def isSpacing (c : Char) : Bool :=
  c = '\t' || c = '\n' || c = '\x0c' || c = '\r'

/-- Whether a character is shown in a mode. -/
def Mode.shows : Mode → Char → Bool
  | .ground, c => (' ' ≤ c && c ≠ '\x7f') || isSpacing c
  | .escape, c | .escapeEnd, c | .control, c => isSpacing c
  | .device, _ | .deviceNumbers, _ | .deviceEnd, _ | .message, _ | .command, _ => false

/-- How far a text has been read. -/
structure State where
  mode : Mode
  /-- The last character was shown. Text goes on behind it, even in the middle of a sequence. -/
  writing : Bool
  deriving DecidableEq

/-- The state that a character leads to, and whether it is shown. -/
def State.step (s : State) (c : Char) : State × Bool :=
  if s.writing ∧ Mode.ground.shows c then
    (if c.toNat < 0x80 then s else ⟨.ground, true⟩, true)
  else (⟨s.mode.next c, s.mode.shows c⟩, s.mode.shows c)

/-- The characters that are shown of a text, read on from a state. -/
def shownFrom : State → List Char → List Char
  | _, [] => []
  | s, c :: rest =>
    let (s, isShown) := s.step c
    if isShown then c :: shownFrom s rest else shownFrom s rest

/-- What is shown of a text. -/
def shown (text : String) : String :=
  String.ofList (shownFrom ⟨.ground, false⟩ text.toList)

example : shown "a\x1b[31mb\x07\x7f\tc" = "ab\tc" := by decide +kernel

end SessionInventory.Terminal
