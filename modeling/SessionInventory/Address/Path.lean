import SessionInventory.Address.Form

/-!
# Paths

A path is a list of segments, each written behind a slash. Segments that stand for the directory
they are in or the one above it are resolved as they are read; a drive, such as `C:`, has nothing
above it.
-/

namespace SessionInventory.Address.Path

/-- Whether a segment stands for the directory it is in. -/
def isHere (segment : List Char) : Bool :=
  let s := segment.map Char.toLower
  s = ".".toList || s = "%2e".toList

/-- Whether a segment stands for the directory above. -/
def isAbove (segment : List Char) : Bool :=
  let s := segment.map Char.toLower
  s = "..".toList || s = ".%2e".toList || s = "%2e.".toList || s = "%2e%2e".toList

/-- Whether a segment is a drive: a letter and a colon, for which a bar may stand. -/
def isDrive : List Char → Bool
  | [letter, mark] => letter.isAlpha && (mark = ':' || mark = '|')
  | _ => false

/-- Whether a segment has nothing above it: a drive, behind which a backslash may come. -/
def isTop (segment : List Char) : Bool :=
  isDrive (segment.take 2) && (segment.drop 2).head?.all (· = '\\')

/-- The directory above the one that segments lead to. As in all of `resolve`, the last segment comes
first. -/
def above : List (List Char) → List (List Char)
  | [] => []
  | last :: before => if isTop last then last :: before else before

/-- A segment as it is put behind others. The first one of a file's path, if it is a drive, gets its
colon. -/
def entered (form : Form) (before : List (List Char)) (segment : List Char) : List Char :=
  if form = .file ∧ before = [] ∧ isDrive segment then segment.take 1 ++ [':'] else segment

/-- Reads on behind some segments. Where the last segment stands for a directory, an empty one takes
its place. -/
def resolve (form : Form) (before : List (List Char)) : List (List Char) → List (List Char)
  | [] => before.reverse
  | segment :: rest =>
    let ended (before : List (List Char)) := if rest = [] then [] :: before else before
    if isAbove segment then resolve form (ended (above before)) rest
    else if isHere segment then resolve form (ended before) rest
    else resolve form (entered form before segment :: before) rest

/-- The segments of a text that has slashes between them. -/
def segments (form : Form) (text : List Char) : List (List Char) :=
  resolve form [] ((encodeUnless inPath text).splitOnP form.isSlash)

/-- The segments of a text that follows a host: a slash comes first, if only one that is
understood. -/
def segmentsBehindHost (form : Form) : List Char → List (List Char)
  | [] => if form = .other then [] else [[]]
  | c :: rest => segments form (if form.isSlash c then rest else c :: rest)

/-- Segments, each behind a slash. -/
def write (segments : List (List Char)) : List Char :=
  segments.flatMap ('/' :: ·)

/-- The segments of a file's path, behind one slash however many of them are empty at first. -/
def writeFile (segments : List (List Char)) : List Char :=
  '/' :: (write segments).dropWhile (· = '/')

example : write (segments .other "a/./b/../c/..".toList) = "/a/".toList := by decide +kernel

example : writeFile (segments .file "C|/../x".toList) = "/C:/x".toList := by decide +kernel

end SessionInventory.Address.Path
