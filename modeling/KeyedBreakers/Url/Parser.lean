import KeyedBreakers.Text.Blank
import KeyedBreakers.Url.Basic

/-!
# Reading addresses

An address is read from left to right: scheme, authority, path, query, fragment. Controls and blanks
around it are ignored, and so are tabs and line breaks anywhere in it. How many slashes stand before
the authority does not matter to the special schemes; other schemes have an authority only after
exactly two.

* `significant` — the characters of a text that matter;
* `Url.parse` — the address that a text denotes, or why it denotes none.
-/

namespace KeyedBreakers.Url

open KeyedBreakers.Text

/-! ### What is ignored -/

/-- A control or a space, which is ignored at the ends of an address. -/
def isPadding (c : Char) : Bool :=
  c.toNat ≤ 0x20

/-- A tab or line break, which is ignored anywhere in an address. -/
def isIgnored (c : Char) : Bool :=
  c == '\t' || c == '\n' || c == '\r'

/-- The characters of a text that matter to an address. -/
def significant (cs : List Char) : List Char :=
  (trimBy isPadding cs).filter (!isIgnored ·)

/-! ### Query and fragment -/

/-- The query and the fragment in a text that is empty or starts with one of them. -/
def readTail (special : Bool) (cs : List Char) : Option String × Option String :=
  let querySet := if special then EncodeSet.specialQuery else EncodeSet.query
  let encoded (set : EncodeSet) (part : List Char) := String.ofList (encode set part)
  let isHash (c : Char) : Bool := c == '#'
  let query := match cs with
    | '?' :: rest => some (encoded querySet (rest.takeWhile (!isHash ·)))
    | _ => none
  let fragment := match cs.dropWhile (!isHash ·) with
    | '#' :: rest => some (encoded EncodeSet.fragment rest)
    | _ => none
  (query, fragment)

/-- Whether a character ends the path. -/
def endsPath (c : Char) : Bool :=
  c == '?' || c == '#'

/-- The address with the given scheme, authority and path; `cs` is the text from the path on. -/
def withTail (scheme : String) (authority : Option Authority) (path : Path) (cs : List Char) :
    Url :=
  let (query, fragment) :=
    readTail (Scheme.kind scheme).isSpecial (cs.dropWhile (!endsPath ·))
  ⟨scheme, authority, path, query, fragment⟩

/-! ### Authority and path -/

/-- A text without the slash at its head. -/
def dropSlash (kind : SchemeKind) : List Char → List Char
  | [] => []
  | c :: cs => if kind.isSlash c then cs else c :: cs

/-- The path after an authority: under a special scheme there is always one. -/
def pathAfterAuthority (kind : SchemeKind) (written : List Char) : Path × Bool :=
  if written = [] ∧ kind.isSpecial = false then (.segments [], false)
  else Path.resolve kind (dropSlash kind written)

/-- The address whose authority is at the head of the text. -/
def parseAuthority (scheme : String) (cs : List Char) : Except UrlError Url := do
  let kind := Scheme.kind scheme
  let rest := cs.dropWhile (!kind.endsAuthority ·)
  let (authority, left) ←
    Authority.parse kind (rest ≠ []) (cs.takeWhile (!kind.endsAuthority ·))
  let tail := left ++ rest
  let (path, _) := pathAfterAuthority kind (tail.takeWhile (!endsPath ·))
  return withTail scheme (some authority) path tail

/-! ### Addresses of files -/

/-- The host in the address of a file; the local host is the same as none. -/
def fileHost (written : List Char) : Except UrlError (Option Host) := do
  if written = [] then return none
  else
    let host ← Host.parse true written
    return if host = .domain "localhost" then none else some host

/-- The address of a file with the given host, if its path names no drive. -/
def fileAt (scheme : String) (host : Option Host) (resolved : Path × Bool) (tail : List Char) :
    Url :=
  let (path, drive) := resolved
  withTail scheme (some { host := if drive then none else host }) path tail

/-- The address of a file whose scheme is followed by the text. After two slashes comes a host,
unless a drive stands there. -/
def parseFile (scheme : String) (cs : List Char) : Except UrlError Url := do
  let slash := SchemeKind.file.isSlash
  let resolved (tail : List Char) := Path.resolve .file (tail.takeWhile (!endsPath ·))
  let here (tail : List Char) := fileAt scheme none (resolved tail) tail
  match cs with
  | c :: d :: rest =>
    if slash c && slash d then
      let written := rest.takeWhile (!SchemeKind.file.endsAuthority ·)
      if Path.isDrive written then return here rest
      else
        let tail := rest.drop written.length
        match ← fileHost written with
        | none => return here tail
        | some host =>
          let path := pathAfterAuthority .file (tail.takeWhile (!endsPath ·))
          return fileAt scheme (some host) path tail
    else return here (dropSlash .file cs)
  | _ => return here (dropSlash .file cs)

end KeyedBreakers.Url

namespace KeyedBreakers

open KeyedBreakers.Url

/-- The address that a text denotes. -/
def Url.parse (text : String) : Except UrlError Url :=
  match Scheme.split? (significant text.toList) with
  | none => .error .relativeWithoutBase
  | some (name, rest) =>
    let scheme := String.ofList name
    match Scheme.kind scheme with
    | .file => parseFile scheme rest
    | .special port => parseAuthority scheme (rest.dropWhile (SchemeKind.special port).isSlash)
    | .other =>
      match rest with
      | '/' :: '/' :: authority => parseAuthority scheme authority
      | '/' :: tail =>
        .ok (withTail scheme none (Path.resolve .other (tail.takeWhile (!endsPath ·))).1 tail)
      | tail =>
        let plain := encode EncodeSet.controls (tail.takeWhile (!endsPath ·))
        .ok (withTail scheme none (.plain (String.ofList plain)) tail)

end KeyedBreakers
