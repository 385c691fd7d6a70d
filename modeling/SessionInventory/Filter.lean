import SessionInventory.Event
import SessionInventory.Filter.Pattern
import SessionInventory.Text.Utf8

/-!
# Which events are shown

A filter is a list of directives. Of those that are for an event, the one that says most about it
decides, and of equals the last. An event that no directive is for is not shown.

A directive sets a level for some events: `target[span{field=pattern}]=level`, of which any part may
be missing. It is for the events of the sources that begin with its target, that lie in a span of its
name, and that have its field with a value that the pattern fits. No event lies in a span, and the
values of an event's own details are not looked at; so a directive that asks for either is for none.

The places of the marks in a directive are those that they have once the white space around it is
left out, but what is read at these places is the directive with its white space. Where this cuts a
character in two there is no reading it.
-/

namespace SessionInventory

/-- What a directive asks of the details of an event. -/
structure Field where
  name : List Char
  pattern : Option (List Char)
  deriving DecidableEq

/-- Sets a level, up to which events are shown, for the events that it is for. -/
structure Directive where
  target : List Char
  span : Option (List Char)
  field : Option Field
  level : Nat
  deriving DecidableEq

/-- The rank that a word names as the last to be shown: a name in either case or a number; `off` and
zero show nothing. -/
def level? (word : List Char) : Option Nat :=
  let digits := match word with
    | '+' :: rest => rest
    | rest => rest
  if digits ≠ [] ∧ digits.all Char.isDigit then
    let n := digits.foldl (fun n c => 10 * n + (c.toNat - '0'.toNat)) 0
    if n ≤ 5 then some n else none
  else
    let name := word.map Char.toUpper
    if name = "OFF".toList then some 0
    else ([.error, .warn, .info, .debug, .trace].find? fun s : Severity => name = s.name.toList).map
      Severity.rank

namespace Field

/-- Whether a text is a number with a plus sign, which is no pattern but understood as a value. -/
def isPositive : List Char → Bool
  | '+' :: text =>
    let word := String.ofList (text.map Char.toLower)
    let whole := text.takeWhile Char.isDigit
    let rest := text.dropWhile Char.isDigit
    let fraction := match rest with
      | '.' :: rest => rest.takeWhile Char.isDigit
      | _ => []
    let rest := match rest with
      | '.' :: rest => rest.dropWhile Char.isDigit
      | rest => rest
    let isExponent (text : List Char) : Bool := text ≠ [] && text.all Char.isDigit
    ["inf", "infinity", "nan"].contains word ||
      ((whole ≠ [] || fraction ≠ []) &&
        match rest with
        | [] => true
        | 'e' :: '+' :: rest | 'E' :: '+' :: rest | 'e' :: '-' :: rest | 'E' :: '-' :: rest
        | 'e' :: rest | 'E' :: rest => isExponent rest
        | _ => false)
  | _ => false

/-- The field that a text asks for: a name, and perhaps a pattern behind `=`. What follows a second
`=` does not count. -/
def read? (text : List Char) : Option Field :=
  let name := text.takeWhile (· ≠ '=')
  if text = [] then none
  else match text.dropWhile (· ≠ '=') with
    | [] => some ⟨name, none⟩
    | _ :: rest =>
      let pattern := rest.takeWhile (· ≠ '=')
      if isPositive pattern ∨ Pattern.isValid pattern then some ⟨name, some pattern⟩ else none

end Field

namespace Directive

/-- Why there is no reading a directive. -/
inductive Flaw where
  | malformed
  /-- A mark's place is within a character. -/
  | misplaced
  deriving DecidableEq

/-- The part of a text between two places, counted in bytes. -/
def part (text : List Char) (first last : Nat) : Except Flaw (List Char) :=
  match (Utf8.splitBytes? first text).bind fun (_, rest) => Utf8.splitBytes? (last - first) rest with
  | some (part, _) => .ok part
  | none => .error .misplaced

/-- The part of a text from a place on. -/
def partFrom (text : List Char) (first : Nat) : Except Flaw (List Char) :=
  match Utf8.splitBytes? first text with
  | some (_, rest) => .ok rest
  | none => .error .misplaced

/-- Reads the level at a place. Nothing at all stands for everything. -/
def readLevel (whole : List Char) (place : Nat) : Except Flaw Nat :=
  match partFrom whole place with
  | .error flaw => .error flaw
  | .ok [] => .ok Severity.trace.rank
  | .ok word => (level? word).elim (.error .malformed) .ok

/-- Reads what follows a closing bracket, given its place. -/
def readEnd (whole : List Char) (place : Nat) : List Char → Except Flaw Nat
  | [] => .ok Severity.trace.rank
  | '=' :: _ => readLevel whole (place + 1)
  | _ => .error .malformed

/-- Reads what follows an opening brace, given its place. -/
def readField (whole : List Char) (place : Nat) (text : List Char) : Except Flaw (Field × Nat) := do
  let last := place + Utf8.byteCount (text.takeWhile (· ≠ '\x7d'))
  match text.dropWhile (· ≠ '\x7d') with
  | [] => .error .malformed
  | _ :: rest =>
    let written ← part whole place last
    match Field.read? written, rest with
    | some field, ']' :: rest =>
      let level ← readEnd whole (last + 2) rest
      .ok (field, level)
    | _, _ => .error .malformed

/-- Reads what follows an opening bracket, given its place. -/
def readSpan (target whole : List Char) (place : Nat) (text : List Char) :
    Except Flaw Directive := do
  let isEnd (c : Char) : Bool := c = ']' || c = '\x7b'
  let last := place + Utf8.byteCount (text.takeWhile (!isEnd ·))
  match text.dropWhile (!isEnd ·) with
  | [] => .error .malformed
  | ']' :: rest =>
    let span ← part whole place last
    let level ← readEnd whole (last + 1) rest
    .ok ⟨target, some span, none, level⟩
  | _ :: rest =>
    let span ← part whole place last
    let (field, level) ← readField whole (last + 1) rest
    .ok ⟨target, if span = [] then none else some span, some field, level⟩

/-- Whether a target or a level may begin with a character. -/
def mayBegin (c : Char) : Bool :=
  isAlphanumeric c || c = '-' || c = ':' || c = '_'

/-- Reads a directive. A word by itself is a level, or else a target of which everything is shown. -/
def read (whole : List Char) : Except Flaw Directive := do
  match Blank.trim whole with
  | [] => .error .malformed
  | '[' :: rest => readSpan [] whole 1 rest
  | c :: rest =>
    let isEnd (c : Char) : Bool := c = '=' || c = '['
    let last := Utf8.byteCount ((c :: rest).takeWhile (!isEnd ·))
    if ¬mayBegin c then .error .malformed
    else match (c :: rest).dropWhile (!isEnd ·) with
      | [] => .ok (match level? whole with
        | some level => ⟨[], none, none, level⟩
        | none => ⟨whole, none, none, Severity.trace.rank⟩)
      | '[' :: rest =>
        let target ← part whole 0 last
        readSpan target whole (last + 1) rest
      | _ =>
        let target ← part whole 0 last
        let level ← readLevel whole (last + 1)
        .ok ⟨target, none, none, level⟩

/-- Whether a directive is for an event. What happened counts as a detail. -/
def isFor (d : Directive) (e : Event) : Bool :=
  d.target.isPrefixOf e.source.toList && d.span.isNone &&
    d.field.all fun field => field.pattern.isNone &&
      ("message" :: e.details.map (·.1)).contains (String.ofList field.name)

/-- Whether a directive says no more than another about the events that it is for: its target is
shorter, or as long and it asks for no field, or for one whose name comes earlier. -/
def isAtMost (d other : Directive) : Bool :=
  if d.target.length ≠ other.target.length then d.target.length < other.target.length
  else match d.field, other.field with
    | none, _ => true
    | some _, none => false
    | some field, some otherField => ¬otherField.name < field.name

end Directive

/-! ## Filters -/

/-- Directives, in the order in which they were given. -/
abbrev Filter := List Directive

namespace Filter

/-- Shows events of any source up to a severity. -/
def upTo (s : Severity) : Filter := [⟨[], none, none, s.rank⟩]

/-- Reads directives with commas between them. The first flaw decides. -/
def read (text : String) : Except Directive.Flaw Filter :=
  ((text.toList.splitOn ',').filter (· ≠ [])).mapM Directive.read

/-- The directive that decides about an event. -/
def deciding? (filter : Filter) (e : Event) : Option Directive :=
  (filter.filter (·.isFor e)).foldl
    (fun best d => match best with
      | none => some d
      | some b => if b.isAtMost d then some d else some b) none

/-- Whether an event is shown. -/
def shows (filter : Filter) (e : Event) : Bool :=
  (filter.deciding? e).any (e.severity.rank ≤ ·.level)

/-- The filter of a run: the directives that a variable gives, if they are text and not blank, and
otherwise warnings, or everything for debugging if asked to be verbose. Malformed directives count
as warnings only; with a mark that is misplaced there is no filter, and no run. -/
def ofRun? (verbose : Bool) (directives : Option (List UInt8)) : Option Filter :=
  let fallback := upTo (if verbose then .debug else .warn)
  match directives.bind Utf8.decode? with
  | none => some fallback
  | some text =>
    if Blank.trim text.toList = [] then some fallback
    else match read text with
      | .ok filter => some filter
      | .error .malformed => some (upTo .warn)
      | .error .misplaced => none

end Filter

end SessionInventory
