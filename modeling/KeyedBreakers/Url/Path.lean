import KeyedBreakers.Text.Split
import KeyedBreakers.Url.Percent
import KeyedBreakers.Url.Scheme

/-!
# Paths

A path is a list of segments, or, in an address without a hierarchy, plain text. A segment of one
dot stands for the place itself and one of two dots for the place above, also when the dots are
percent-encoded; neither stays in a path. A segment that names a drive, a letter and a colon, is
never left by going up. In the address of a file the drive may be written with a bar, and a drive
makes the host meaningless.

* `Path.resolve` — the segments that written segments lead to;
* `Path.chars` — the path as it is written.
-/

namespace KeyedBreakers.Url

open KeyedBreakers.Text

/-- The path of an address, percent-encoded. -/
inductive Path where
  /-- Each segment is written after a slash. -/
  | segments (names : List String)
  /-- Text without a hierarchy. -/
  | plain (text : String)
deriving DecidableEq

namespace Path

/-- The path as it is written. -/
def chars : Path → List Char
  | segments names => names.flatMap fun name => '/' :: name.toList
  | plain text => text.toList

/-! ### Segments with a meaning -/

/-- Whether the text is a dot, plain or percent-encoded; the letter may be of either case. -/
def isDot (text : List Char) : Bool :=
  text == ['.'] || text == ['%', '2', 'e'] || text == ['%', '2', 'E']

/-- Whether a written segment stands for the place above. -/
def isDoubleDot (text : List Char) : Bool :=
  match text with
  | '.' :: rest => isDot rest
  | '%' :: '2' :: e :: rest => (e == 'e' || e == 'E') && isDot rest
  | _ => false

/-- Whether a segment names a drive. -/
def isDrive (text : List Char) : Bool :=
  match text with
  | [letter, mark] => letter.isAlpha && (mark == ':' || mark == '|')
  | _ => false

/-! ### Going through a path -/

/-- The segments of the place above; nothing is above the root or a drive. -/
def above (done : List (List Char)) : List (List Char) :=
  match done.getLast? with
  | some last => if isDrive last then done else done.dropLast
  | none => done

/-- The place that a written segment leads to, and whether it named the drive of a file. -/
def enter (kind : SchemeKind) (done : List (List Char)) (segment : List Char) :
    List (List Char) × Bool :=
  if kind = .file ∧ done = [] ∧ isDrive segment then ([[segment.headD ' ', ':']], true)
  else (done ++ [encode EncodeSet.path segment], false)

/-- The segments that written segments lead to from `done`, and whether a drive was named. The last
written segment always leaves a segment, an empty one if it only moves. -/
def walk (kind : SchemeKind) (done : List (List Char)) : List (List Char) →
    List (List Char) × Bool
  | [] => (done, false)
  | [last] =>
    if isDoubleDot last then (above done ++ [[]], false)
    else if isDot last then (done ++ [[]], false)
    else enter kind done last
  | segment :: rest =>
    if isDoubleDot segment then walk kind (above done) rest
    else if isDot segment then walk kind done rest
    else
      let (done, drive) := enter kind done segment
      let (final, laterDrive) := walk kind done rest
      (final, drive || laterDrive)

/-- Empty segments at the head of the path of a file are dropped, but for the last segment. -/
def dropEmptyHead : List (List Char) → List (List Char)
  | [] :: next :: rest => dropEmptyHead (next :: rest)
  | names => names

/-- The path that the text after the first slash leads to, and whether it names a drive. -/
def resolve (kind : SchemeKind) (text : List Char) : Path × Bool :=
  let (done, drive) := walk kind [] (piecesBy kind.isSlash text)
  let done := if kind = .file then dropEmptyHead done else done
  (.segments (done.map String.ofList), drive)

end Path

end KeyedBreakers.Url
