import SessionInventory.Address.Authority
import SessionInventory.Address.Path

/-!
# Addresses

An address is read as browsers read it: blanks around it do not count, schemes and names come in
small letters, the default port is left out, `.` and `..` in the path are resolved, and characters
that a part does not admit are percent-encoded. `Address.text` writes it out again;
`Address.target` is what a request for it asks for, without the fragment. `Address.join` reads what
may leave out parts that an address at hand has.
-/

namespace SessionInventory

/-- An address in normal form. -/
structure Address where
  scheme : String
  authority : Option Address.Authority
  path : String
  query : Option String
  fragment : Option String
  deriving DecidableEq

namespace Address

/-- A text as it is read: control characters and spaces around it and line breaks and tabs within
are left out. -/
def tidy (text : List Char) : List Char :=
  let unwanted (c : Char) : Bool := c ≤ ' '
  let trimmed := ((text.dropWhile unwanted).reverse.dropWhile unwanted).reverse
  trimmed.filter fun c => c ≠ '\t' && c ≠ '\n' && c ≠ '\r'

/-- Whether a character may stand in a scheme behind its first letter. -/
def inScheme (c : Char) : Bool :=
  c.isAlphanum || c = '+' || c = '-' || c = '.'

/-- The scheme of a text, in small letters, and what follows its colon. -/
def scheme? (text : List Char) : Option (String × List Char) :=
  match text.takeWhile inScheme, text.dropWhile inScheme with
  | c :: cs, ':' :: rest =>
    if c.isAlpha then some (String.ofList ((c :: cs).map Char.toLower), rest) else none
  | _, _ => none

/-- What the query of an address of a form admits. -/
def Form.inQuery : Form → Char → Bool
  | .web _ | .file => inWebQuery
  | .other => Address.inQuery

/-- What stands behind a mark, if the text begins with it. -/
def behind (mark : Char) : List Char → Option (List Char)
  | c :: rest => if c = mark then some rest else none
  | [] => none

/-- Puts an address together, given what its path looks like and the text that follows the path. -/
def assemble (scheme : String) (authority : Option Authority) (path : List Char) (text : List Char) :
    Address :=
  let (queryText, rest) := cut (· = '#') text
  { scheme, authority
    path := String.ofList path
    query := (behind '?' queryText).map
      (String.ofList <| encodeUnless (Form.ofScheme scheme).inQuery ·)
    fragment := (behind '#' rest).map (String.ofList <| encodeUnless inFragment ·) }

/-- The text of a path, and that of the parts behind it. -/
def cutPath (text : List Char) : List Char × List Char :=
  cut (fun c => c = '?' || c = '#') text

/-- An address of host and port, read from where the part that names them begins. -/
def readPlace (scheme : String) (form : Form) (text : List Char) : Except Error Address :=
  match Authority.read form text with
  | .error e => .error e
  | .ok (authority, rest) =>
    let (pathText, rest) := cutPath rest
    .ok (assemble scheme authority (Path.write (Path.segmentsBehindHost form pathText)) rest)

/-- An address of a file, given its host. A path that begins with a drive leaves none. -/
def assembleFile (scheme : String) (host : List Char) (segments : List (List Char))
    (text : List Char) : Address :=
  let host := if segments.head?.any Path.isDrive then [] else host
  assemble scheme (some (.ofHost host)) (Path.writeFile segments) text

/-- An address of a file. The host is mostly missing, and `localhost` is as good as none; a drive in
its place is the beginning of the path. -/
def readFile (scheme : String) (text : List Char) : Except Error Address :=
  match text with
  | a :: b :: behindSlashes =>
    if Form.file.isSlash a ∧ Form.file.isSlash b then
      let (hostText, behindHost) := cut Form.file.endsAuthority behindSlashes
      let (pathText, rest) := cutPath behindHost
      if Path.isDrive hostText then
        .ok (assembleFile scheme [] (Path.segments .file (hostText ++ pathText)) rest)
      else match if hostText = [] then .ok [] else webHost hostText with
        | .error e => .error e
        | .ok host =>
          if host = [] ∨ host = "localhost".toList then
            .ok (assembleFile scheme [] (Path.segments .file pathText) rest)
          else .ok (assembleFile scheme host (Path.segmentsBehindHost .file pathText) rest)
    else withoutHost
  | _ => withoutHost
where
  withoutHost : Except Error Address :=
    let (pathText, rest) := cutPath text
    .ok (assembleFile scheme [] (Path.segmentsBehindHost .file pathText) rest)

/-- Reads an address. -/
def read (text : String) : Except Error Address :=
  match scheme? (tidy text.toList) with
  | none => .error .noScheme
  | some (scheme, rest) =>
    match Form.ofScheme scheme, rest with
    | .web port, rest => readPlace scheme (.web port) (rest.dropWhile (Form.web port).isSlash)
    | .file, rest => readFile scheme rest
    | .other, '/' :: '/' :: rest => readPlace scheme .other rest
    | .other, '/' :: rest =>
      let (pathText, rest) := cutPath rest
      .ok (assemble scheme none (Path.write (Path.segments .other pathText)) rest)
    | .other, rest =>
      let (pathText, rest) := cutPath rest
      .ok (assemble scheme none (encodeUnless isPlain pathText) rest)

/-- An address written out. Without a host, a path that would begin like one has a segment that
stands for nothing in front of it. -/
def text (a : Address) : String :=
  let beginning := match a.authority with
    | some authority => "//" ++ authority.text
    | none => if "//".toList.isPrefixOf a.path.toList then "/." else ""
  a.scheme ++ ":" ++ beginning ++ a.path ++ (a.query.map ("?" ++ ·)).getD "" ++
    (a.fragment.map ("#" ++ ·)).getD ""

/-- What a request for an address asks its host for. -/
def target (a : Address) : String :=
  a.path ++ (a.query.map ("?" ++ ·)).getD ""

/-- The host of an address; it has none if that is empty. -/
def host? (a : Address) : Option String :=
  (a.authority.map (·.host)).filter (· ≠ "")

/-- An address without the credentials that a request for it carries apart from it. -/
def withoutCredentials (a : Address) : Address :=
  { a with authority := a.authority.map Authority.withoutCredentials }

/-- The port that an address leads to, if its scheme has one or it names one. -/
def port? (a : Address) : Option Nat :=
  (a.authority.bind (·.port)).or (Form.ofScheme a.scheme).defaultPort?

/-! ## References -/

/-- What an address of a host begins with, up to its path. -/
def root (a : Address) : String :=
  a.scheme ++ ":" ++ (a.authority.map ("//" ++ ·.text)).getD ""

/-- A path up to its last slash. -/
def directory (path : String) : String :=
  String.ofList (path.toList.reverse.dropWhile (· ≠ '/')).reverse

/-- Reads a reference without a scheme, as it is understood at an address of a host. Behind two
slashes stands a host, behind one a path, and anything else takes the place of the last parts of the
address. -/
def readRelative (a : Address) (text : List Char) : Except Error Address :=
  let isSlash := (Form.ofScheme a.scheme).isSlash
  let behind (front : String) := read (front ++ String.ofList text)
  match text with
  | [] => .ok { a with fragment := none }
  | '#' :: _ => behind (root a ++ a.target)
  | '?' :: _ => behind (root a ++ a.path)
  | first :: second? =>
    if ¬isSlash first then behind (root a ++ directory a.path)
    else if ¬second?.head?.any isSlash then behind (root a)
    else if "//".toList.isPrefixOf text ∧ (text.drop 2).head?.any isSlash then .error .emptyHost
    else behind (a.scheme ++ ":")

/-- Reads a reference, as it is understood at an address of a host. With the scheme of the address
it may still be without a host of its own. -/
def join (a : Address) (reference : String) : Except Error Address :=
  let text := tidy reference.toList
  let isSlash := (Form.ofScheme a.scheme).isSlash
  match scheme? text with
  | none => a.readRelative text
  | some (scheme, rest) =>
    if scheme = a.scheme ∧ (rest.takeWhile isSlash).length < 2 then a.readRelative rest
    else read (String.ofList text)

end Address

end SessionInventory
