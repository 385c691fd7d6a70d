import SessionInventory.Text.Alphanumeric
import SessionInventory.Text.Classes

/-!
# Patterns

Regular expressions, as far as it matters whether a text is one: `Pattern.isValid`.

Letters of either case, digits, words and their edges would take tables of all scripts, which are
not at hand, so they are only understood behind `(?-u)`, which stands for ASCII. There, in turn,
nothing is understood that would match bytes that are no text.
-/

namespace SessionInventory.Pattern

/-- How a part of a pattern is to be understood. -/
structure Mode where
  /-- All scripts count, not only ASCII. -/
  unicode : Bool
  /-- The case of letters does not count. -/
  anyCase : Bool
  /-- White space and comments do not count. -/
  spaced : Bool

/-- The mode with which a pattern begins. -/
def Mode.start : Mode := ⟨true, false, false⟩

/-- A setting once flags have been read: those behind a hyphen are taken back. -/
def isSet (flag : Char) (flags : List Char) (before : Bool) : Bool :=
  let on := flags.takeWhile (· ≠ '-')
  let off := flags.dropWhile (· ≠ '-')
  (before || on.contains flag) && !off.contains flag

/-- A mode once flags have been read. -/
def Mode.set (mode : Mode) (flags : List Char) : Mode :=
  ⟨isSet 'u' flags mode.unicode, isSet 'i' flags mode.anyCase, isSet 'x' flags mode.spaced⟩

/-- A text from its first character on that is neither white space nor in a comment. -/
def skipBlanks : (inComment : Bool) → List Char → List Char
  | _, [] => []
  | true, c :: rest => skipBlanks (c ≠ '\n') rest
  | false, c :: rest =>
    if c = '#' then skipBlanks true rest
    else if Blank.isBlank c then skipBlanks false rest
    else c :: rest

/-- A text from its first character on that counts. -/
def Mode.skip (mode : Mode) (text : List Char) : List Char :=
  if mode.spaced then skipBlanks false text else text

/-- The next character that counts. Only the sign of a comment is passed over, not its words. -/
def Mode.peek? (mode : Mode) (text : List Char) : Option Char :=
  if mode.spaced then
    match text.dropWhile Blank.isBlank with
    | '#' :: comment => (comment.dropWhile Blank.isBlank).head?
    | rest => rest.head?
  else text.head?

/-! ## Items -/

/-- What may be repeated or stand in a class. -/
inductive Item where
  /-- A character, perhaps given as a byte. -/
  | literal (c : Char) (asByte : Bool)
  /-- Digits, white space or word characters, or all but them. -/
  | kind (negated : Bool)
  /-- The edge of a word. -/
  | wordEdge
  /-- The beginning or the end of the text. -/
  | textEdge

/-- Whether an item is understood in a mode. -/
def Item.fits (mode : Mode) : Item → Bool
  | literal c asByte => if mode.unicode then !mode.anyCase else !(asByte && 0x80 ≤ c.toNat)
  | kind negated => !mode.unicode && !negated
  | wordEdge => !mode.unicode
  | textEdge => true

/-- Whether an item is understood in a class. -/
def Item.fitsClass (mode : Mode) : Item → Bool
  | literal c _ => if mode.unicode then !mode.anyCase else c.toNat < 0x80
  | kind negated => !mode.unicode && !negated
  | wordEdge | textEdge => false

/-- Whether two items are the first and the last of a range. -/
def isRange : Item → Item → Bool
  | .literal first _, .literal last _ => first ≤ last
  | _, _ => false

/-- Some hexadecimal digits, and what follows them. -/
def hexDigits? (mode : Mode) : Nat → List Char → Option (List Char × List Char)
  | 0, text => some ([], text)
  | _ + 1, [] => none
  | n + 1, c :: rest =>
    if (Digits.value? 16 c).isSome then
      (hexDigits? mode n (mode.skip rest)).map fun (digits, rest) => (c :: digits, rest)
    else none

/-- The character that some hexadecimal digits give, and what follows them. -/
def hexLiteral? (mode : Mode) (count : Nat) (asByte : Bool) (text : List Char) :
    Option (Item × List Char) :=
  match hexDigits? mode count (mode.skip text) with
  | none => none
  | some (digits, rest) =>
    match Digits.number? 16 digits with
    | none => none
    | some n => if n.isValidChar then some (.literal (Char.ofNat n) asByte, rest) else none

/-- The character that a letter behind a backslash stands for. -/
def controlOf? (letter : Char) : Option Char :=
  [('a', '\x07'), ('f', '\x0c'), ('t', '\t'), ('n', '\n'), ('r', '\r'), ('v', '\x0b')].lookup letter

/-- The item behind a backslash, and what follows it. -/
def escaped? (mode : Mode) : List Char → Option (Item × List Char)
  | [] => none
  | c :: rest =>
    if c = 'x' then hexLiteral? mode 2 true rest
    else if c = 'u' then hexLiteral? mode 4 false rest
    else if c = 'U' then hexLiteral? mode 8 false rest
    else if "dsw".toList.contains c then some (.kind false, rest)
    else if "DSW".toList.contains c then some (.kind true, rest)
    else if "bB<>".toList.contains c then some (.wordEdge, rest)
    else if "Az".toList.contains c then some (.textEdge, rest)
    else if c.toNat < 0x80 ∧ ¬c.isAlphanum then some (.literal c false, rest)
    else (controlOf? c).map fun control => (.literal control false, rest)

/-! ## Reading -/

/-- Where a class is being read. -/
inductive Place where
  /-- Right behind its bracket. -/
  | opening
  /-- Before its first item other than a hyphen. -/
  | leading (hasHyphen : Bool)
  | within
  deriving DecidableEq

/-- How far a pattern has been read. -/
structure State where
  mode : Mode
  /-- The modes around the groups that are open, the innermost first. -/
  groups : List Mode
  /-- The names of groups. -/
  names : List (List Char)
  /-- There is something that can be repeated. -/
  repeatable : Bool
  /-- How many classes are open. -/
  classes : Nat
  place : Place

/-- Before anything is read. -/
def State.start : State := ⟨.start, [], [], false, 0, .within⟩

namespace State

/-- Opens a group. -/
def enter (s : State) (mode : Mode) : State :=
  { s with mode, groups := s.mode :: s.groups, repeatable := false }

/-- Whether a text may be the name of a group. -/
def isName : List Char → Bool
  | [] => false
  | c :: rest =>
    (c = '_' || isLetter c) && rest.all fun d => "_.[]".toList.contains d || isAlphanumeric d

/-- Reads a group from its name on. -/
def readName (s : State) (text : List Char) : Option (State × List Char) :=
  let name := text.takeWhile (· ≠ '>')
  if isName name ∧ name ∉ s.names then
    match text.dropWhile (· ≠ '>') with
    | [] => none
    | _ :: rest => some ({ s.enter s.mode with names := name :: s.names }, rest)
  else none

/-- Whether a text is a list of flags. -/
def areFlags (text : List Char) : Bool :=
  text.all "imsUuRx-".toList.contains && text.Nodup && text.getLast? ≠ some '-'

/-- Reads flags, which hold for a group of their own or from here on. -/
def readFlags (s : State) (text : List Char) : Option (State × List Char) :=
  let isEnd (c : Char) : Bool := c = ':' || c = ')'
  let flags := text.takeWhile (!isEnd ·)
  if ¬areFlags flags then none
  else match text.dropWhile (!isEnd ·) with
    | [] => none
    | ':' :: rest => some (s.enter (s.mode.set flags), rest)
    | _ :: rest =>
      if flags = [] then none
      else some ({ s with mode := s.mode.set flags, repeatable := false }, rest)

/-- Reads what follows an opening parenthesis. There is no looking around. -/
def readGroup (s : State) : List Char → Option (State × List Char)
  | '?' :: '=' :: _ | '?' :: '!' :: _ | '?' :: '<' :: '=' :: _ | '?' :: '<' :: '!' :: _ => none
  | '?' :: 'P' :: '<' :: rest | '?' :: '<' :: rest => s.readName rest
  | '?' :: rest => s.readFlags rest
  | rest => some (s.enter s.mode, rest)

/-- Reads a character outside classes. -/
def readOutside (s : State) (c : Char) (rest : List Char) : Option (State × List Char) :=
  let item (fits : Bool) (rest : List Char) : Option (State × List Char) :=
    if fits then some ({ s with repeatable := true }, rest) else none
  match c with
  | '(' => s.readGroup (s.mode.skip rest)
  | ')' =>
    match s.groups with
    | [] => none
    | mode :: groups => some ({ s with mode, groups, repeatable := true }, rest)
  | '|' => some ({ s with repeatable := false }, rest)
  | '[' => some ({ s with classes := 1, place := .opening }, rest)
  | '?' | '*' | '+' => if s.repeatable then some (s, rest) else none
  | '\x7b' => none
  | '\\' => (escaped? s.mode rest).bind fun (i, rest) => item (i.fits s.mode) rest
  | '.' => item s.mode.unicode rest
  | '^' | '$' => item true rest
  | c => item (Item.fits s.mode (.literal c false)) rest

/-- The names of classes of ASCII. -/
def classNames : List String :=
  ["alnum", "alpha", "ascii", "blank", "cntrl", "digit", "graph", "lower", "print", "punct",
    "space", "upper", "word", "xdigit"]

/-- Whether the named class behind a bracket is a negated one, if it is a named class at all, and
what follows it. -/
def namedClass? (text : List Char) : Option (Bool × List Char) :=
  match text with
  | ':' :: text =>
    let negated := text.head? = some '^'
    let text := if negated then text.drop 1 else text
    match text.dropWhile (· ≠ ':') with
    | ':' :: ']' :: rest =>
      if classNames.contains (String.ofList (text.takeWhile (· ≠ ':'))) then some (negated, rest)
      else none
    | _ => none
  | _ => none

/-- An item of a class that begins with a character, and what follows it. -/
def classItem? (mode : Mode) (c : Char) (rest : List Char) : Option (Item × List Char) :=
  if c = '\\' then escaped? mode rest else some (.literal c false, rest)

/-- Reads an item of a class or a range between two. -/
def readRange (s : State) (c : Char) (rest : List Char) : Option (State × List Char) :=
  match classItem? s.mode c rest with
  | none => none
  | some (first, rest) =>
    let rest := s.mode.skip rest
    let single := if first.fitsClass s.mode then some (s, rest) else none
    match rest with
    | '-' :: behind =>
      if s.mode.peek? behind = some ']' ∨ s.mode.peek? behind = some '-' then single
      else match s.mode.skip behind with
        | [] => none
        | d :: behind =>
          match classItem? s.mode d behind with
          | none => none
          | some (last, behind) =>
            if isRange first last ∧ first.fitsClass s.mode ∧ last.fitsClass s.mode then
              some (s, behind)
            else none
    | _ => single

/-- Reads a character within a class. -/
def readWithin (s : State) (c : Char) (rest : List Char) : Option (State × List Char) :=
  let s := { s with place := .within }
  match c, rest with
  | '[', rest =>
    match namedClass? rest with
    | some (negated, rest) =>
      if s.mode.unicode ∧ s.mode.anyCase ∨ ¬s.mode.unicode ∧ negated then none else some (s, rest)
    | none => some ({ s with classes := s.classes + 1, place := .opening }, rest)
  | ']', rest => some ({ s with classes := s.classes - 1, repeatable := true }, rest)
  | '&', '&' :: rest | '-', '-' :: rest | '~', '~' :: rest => some (s, rest)
  | c, rest => s.readRange c rest

/-- Reads a character of a class. A hyphen or a closing bracket that comes first stands for
itself. -/
def readClass (s : State) (c : Char) (rest : List Char) : Option (State × List Char) :=
  let first (hasHyphen : Bool) : Option (State × List Char) :=
    let fits := Item.fitsClass s.mode (.literal c false)
    if c = '-' then if fits then some ({ s with place := .leading true }, rest) else none
    else if c = ']' ∧ ¬hasHyphen then if fits then some ({ s with place := .within }, rest) else none
    else s.readWithin c rest
  match s.place with
  | .opening =>
    if c = '^' then if s.mode.unicode then some ({ s with place := .leading false }, rest) else none
    else first false
  | .leading hasHyphen => first hasHyphen
  | .within => s.readWithin c rest

/-- Reads a character, and further ones that belong to it. -/
def step (s : State) (c : Char) (rest : List Char) : Option (State × List Char) :=
  if s.mode.spaced ∧ Blank.isBlank c then some (s, rest)
  else if s.mode.spaced ∧ c = '#' then some (s, skipBlanks true rest)
  else if s.classes = 0 then s.readOutside c rest
  else s.readClass c rest

/-- Whether a text completes a pattern. -/
def accepts (s : State) : List Char → Bool
  | [] => s.groups.isEmpty && s.classes = 0
  | c :: rest =>
    match s.step c rest with
    | none => false
    | some (next, remaining) => next.accepts (rest.drop (rest.length - remaining.length))
termination_by text => text.length
decreasing_by
  simp only [List.length_drop, List.length_cons]
  omega

end State

/-- Whether a text is a pattern. -/
def isValid (text : List Char) : Bool := State.start.accepts text

example : isValid "(?P<n>[]a-f]|x*)+".toList = true := by decide +kernel

example : isValid "(?i)a".toList = false := by decide +kernel

example : isValid "(?i-u)a".toList = true := by decide +kernel

end SessionInventory.Pattern
