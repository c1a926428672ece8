import Workbench.Text.Split
import Workbench.Uri.Escape
/-!
# Paths of uris

A path is a row of segments, each after a slash. Reading one resolves `.`
and `..` and escapes the segments. A letter with a colon names a drive, and
`..` does not lead out of one; in a file uri the letter may be followed by a
bar instead if it comes first.
-/

namespace Workbench

namespace Uri

/-- Whether a segment stands for the folder itself. -/
def isHere (segment : List Char) : Bool :=
  [".", "%2e"].contains (String.ofList (segment.map Char.toLower))

/-- Whether a segment stands for the enclosing folder. -/
def isUp (segment : List Char) : Bool :=
  ["..", ".%2e", "%2e.", "%2e%2e"].contains (String.ofList (segment.map Char.toLower))

/-- Whether a segment names a drive. -/
def isDrive : List Char → Bool
  | [letter, mark] => letter.isAlpha && (mark == ':' || mark == '|')
  | _ => false

/-- The segments without the last one, which stays if it names a drive. -/
def leave (done : List (List Char)) : List (List Char) :=
  if done.getLast?.any isDrive then done else done.dropLast

/-- A segment as it is written after others. The first segment of a file uri
that names a drive has a colon. -/
def writeSegment (isFile : Bool) (done : List (List Char)) (segment : List Char) : List Char :=
  if isFile && done.isEmpty && isDrive segment then segment.take 1 ++ [':']
  else segment.flatMap (escape .path)

/-- **Resolves the segments of a path**, given those before it. A `.` or a
`..` at the end leaves an empty last segment. -/
def resolve (isFile : Bool) : List (List Char) → List (List Char) → List (List Char)
  | done, [] => done
  | done, segment :: rest =>
    let last := if rest.isEmpty then [[]] else []
    if isUp segment then resolve isFile (leave done ++ last) rest
    else if isHere segment then resolve isFile (done ++ last) rest
    else resolve isFile (done ++ [writeSegment isFile done segment]) rest

/-- The text of a path. -/
def pathText (segments : List (List Char)) : String :=
  String.ofList ('/' :: Text.joinWith '/' segments)

/-- The path of a file uri: the empty segments before all others say nothing. -/
def filePathText (segments : List (List Char)) : String :=
  String.ofList ('/' :: (Text.joinWith '/' segments).dropWhile (· == '/'))

end Uri

end Workbench
