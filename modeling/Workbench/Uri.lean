import Workbench.Uri.Host
import Workbench.Uri.Path
/-!
# Document addresses

A document is addressed by a uri of the form `scheme://host/path`. Reading a
uri brings it into one form: the scheme in lower case, the host in ASCII,
`.` and `..` segments resolved, and every character that may not stand in its
part escaped. Two uris are the same document exactly if these forms are
equal.
-/

namespace Workbench

/-- What stands between `//` and the path. -/
structure Authority where
  /-- The user and the password with the sign behind them. -/
  user : String
  host : String
  /-- The number behind the host, unless the scheme implies it. -/
  socket : Option Nat
deriving DecidableEq, Repr, Inhabited

/-- A uri in its normal form. -/
structure Uri where
  scheme : String
  authority : Option Authority
  path : String
  /-- The query and the fragment, each with its mark. -/
  tail : String
deriving DecidableEq, Repr, Inhabited

/-- The text of an authority. -/
def Authority.render (a : Authority) : String :=
  a.user ++ a.host ++ match a.socket with
    | some socket => ":" ++ toString socket
    | none => ""

/-- An authority that says nothing. -/
def Authority.blank : Authority := ⟨"", "", none⟩

namespace Uri

/-! ## Text -/

/-- Whether the path has segments. -/
def isRooted (u : Uri) : Bool := u.path.toList.head? == some '/'

/-- **The text of a uri.** Without an authority, a path that starts with
two slashes is set apart from one. -/
def render (u : Uri) : String :=
  let start := match u.authority with
    | some authority => "//" ++ authority.render
    | none => if ['/', '/'].isPrefixOf u.path.toList then "/." else ""
  u.scheme ++ ":" ++ start ++ u.path ++ u.tail

/-- The host, empty if there is none. -/
def host (u : Uri) : String := (u.authority.map Authority.host).getD ""

/-- The last segment of the path. -/
def name (u : Uri) : String :=
  if u.isRooted then
    String.ofList (u.path.toList.reverse.takeWhile (· != '/')).reverse
  else ""

/-- Uris are ordered by their texts. -/
def le (u v : Uri) : Bool := !(decide (v.render < u.render))

/-! ## Schemes -/

/-- The schemes whose host is a domain that cannot be left out, each with
the socket that it implies. -/
def domainSchemes : List (String × Nat) :=
  [("http", 80), ("https", 443), ("ws", 80), ("wss", 443), ("ftp", 21)]

/-- The socket that a scheme implies. -/
def impliedSocket? (scheme : String) : Option Nat := domainSchemes.lookup scheme

/-- Whether a backslash separates segments as a slash does. -/
def isSpecial (scheme : String) : Bool := scheme == "file" || (impliedSocket? scheme).isSome

/-- Whether a character separates segments. -/
def isSlash (scheme : String) (c : Char) : Bool := c == '/' || (isSpecial scheme && c == '\\')

/-- Whether a character starts a query or a fragment. -/
def startsTail (c : Char) : Bool := c == '?' || c == '#'

/-! ## Reading -/

/-- A piece of text without blanks and control characters at its ends, and
without line breaks and tabs inside. -/
def trimmed (cs : List Char) : List Char :=
  let edge (c : Char) : Bool := c.toNat ≤ 0x20
  let cs := ((cs.dropWhile edge).reverse.dropWhile edge).reverse
  cs.filter fun c => !(['\t', '\n', '\r'].contains c)

/-- The scheme in lower case, and what follows its colon. -/
def splitScheme? (cs : List Char) : Option (String × List Char) :=
  let scheme := cs.takeWhile fun c => c.isAlphanum || c == '+' || c == '-' || c == '.'
  match scheme, cs.drop scheme.length with
  | c :: _, ':' :: rest =>
    if c.isAlpha then some (String.ofList (scheme.map Char.toLower), rest) else none
  | _, _ => none

/-- Reads a query and a fragment, which starts at the first `#`. -/
def readTail (scheme : String) : Bool → List Char → List Char
  | _, [] => []
  | inFragment, c :: cs =>
    let part : Part :=
      if inFragment then .fragment else if isSpecial scheme then .strictQuery else .query
    escape part c ++ readTail scheme (inFragment || c == '#') cs

/-- The pieces of a path before its query, resolved. -/
def readSegments (scheme : String) (cs : List Char) : List (List Char) :=
  let path := (cs.takeWhile (!startsTail ·)).map fun c => if isSlash scheme c then '/' else c
  resolve (scheme == "file") [] (Text.splitAt '/' path)

/-- A text without the separator that it starts with. -/
def afterSlash (scheme : String) : List Char → List Char
  | [] => []
  | c :: cs => if isSlash scheme c then cs else c :: cs

/-- A uri by its authority, its path and the text that its query ends. -/
def build (scheme : String) (authority : Option Authority) (path : String) (cs : List Char) : Uri :=
  ⟨scheme, authority, path, String.ofList (readTail scheme false (cs.dropWhile (!startsTail ·)))⟩

/-- Splits a text at the last `@`. -/
def splitUser? (cs : List Char) : Option (List Char × List Char) :=
  if cs.contains '@' then
    let host := (cs.reverse.takeWhile (· != '@')).reverse
    some (cs.take (cs.length - host.length - 1), host)
  else none

/-- A user and a password, which a colon separates. -/
def userText (cs : List Char) : String :=
  let name := (cs.takeWhile (· != ':')).flatMap (escape .user)
  let password := ((cs.dropWhile (· != ':')).drop 1).flatMap (escape .user)
  if name.isEmpty && password.isEmpty then ""
  else String.ofList (name ++ (if password.isEmpty then [] else ':' :: password) ++ ['@'])

/-- Splits a host from the colon of its socket; a colon in brackets is part of
the host. -/
def splitSocket : Bool → List Char → List Char × List Char
  | _, [] => ([], [])
  | inBrackets, c :: cs =>
    if c = ':' ∧ !inBrackets then ([], c :: cs)
    else
      let (host, socket) := splitSocket (c == '[' || (inBrackets && c != ']')) cs
      (c :: host, socket)

/-- Reads a socket and what follows it: one that is empty or implied is left
out. -/
def readSocket? (scheme : String) : List Char → Option (Option Nat × List Char)
  | ':' :: cs =>
    let digits := cs.takeWhile Char.isDigit
    let rest := cs.drop digits.length
    let number := digits.foldl (fun n c => 10 * n + (c.toNat - '0'.toNat)) 0
    if number > 65535 || rest.head?.any (· != '\\') then none
    else if digits.isEmpty || impliedSocket? scheme == some number then some (none, rest)
    else some (some number, rest)
  | cs => some (none, cs)

/-- The host of a scheme other than that of files. -/
def readHost? (scheme : String) (cs : List Char) : Option String :=
  if isSpecial scheme then domainHost? cs else plainHost? cs

/-- Reads an authority and what follows it. -/
def readAuthority? (scheme : String) (cs : List Char) : Option (Authority × List Char) := do
  let isEnd (c : Char) : Bool := isSlash scheme c || startsTail c
  let text := cs.takeWhile (!isEnd ·)
  let rest := cs.dropWhile (!isEnd ·)
  let (user, text) ← match splitUser? text with
    | none => some ("", text)
    | some ([], host) => if host.isEmpty && !rest.isEmpty then none else some ("", host)
    | some (user, host) => some (userText user, host)
  let (host, socket) := splitSocket false text
  let host ← readHost? scheme host
  if host.isEmpty && (!user.isEmpty || !socket.isEmpty) then none
  else
    let (socket, after) ← readSocket? scheme socket
    return (⟨user, host, socket⟩, after ++ rest)

/-- Reads what follows the slashes of a scheme other than that of files. -/
def ofAuthority? (scheme : String) (cs : List Char) : Option Uri :=
  (readAuthority? scheme cs).map fun (authority, rest) =>
    let path :=
      if !isSpecial scheme && (rest.takeWhile (!startsTail ·)).isEmpty then ""
      else pathText (readSegments scheme (afterSlash scheme rest))
    build scheme (some authority) path rest

/-- A file uri without a host. -/
def ofFilePath (cs : List Char) : Uri :=
  build "file" (some .blank) (filePathText (readSegments "file" cs)) cs

/-- Reads what follows the slashes of a file uri. A drive takes the place of
a host. -/
def ofFileHost? (cs : List Char) : Option Uri :=
  let isEnd (c : Char) : Bool := isSlash "file" c || startsTail c
  let text := cs.takeWhile (!isEnd ·)
  let rest := cs.dropWhile (!isEnd ·)
  if isDrive text then some (ofFilePath cs)
  else if text.isEmpty then some (ofFilePath rest)
  else
    (domainHost? text).map fun host =>
      if host == "localhost" then ofFilePath rest
      else
        let segments := readSegments "file" (afterSlash "file" rest)
        let host := if segments.head?.any isDrive then "" else host
        build "file" (some ⟨"", host, none⟩) (filePathText segments) rest

/-- Reads a uri without an authority. -/
def ofPlain (scheme : String) (cs : List Char) : Uri :=
  let path := match cs with
    | '/' :: cs => pathText (readSegments scheme cs)
    | cs => String.ofList ((cs.takeWhile (!startsTail ·)).flatMap (escape .plain))
  build scheme none path cs

/-- **Reads a uri**, if the text is one. -/
def parse? (text : String) : Option Uri :=
  (splitScheme? (trimmed text.toList)).bind fun (scheme, cs) =>
    if (impliedSocket? scheme).isSome then ofAuthority? scheme (cs.dropWhile (isSlash scheme))
    else
      match cs with
      | a :: b :: rest =>
        if isSlash scheme a && isSlash scheme b then
          if scheme == "file" then ofFileHost? rest else ofAuthority? scheme rest
        else if scheme == "file" then some (ofFilePath (afterSlash scheme cs))
        else some (ofPlain scheme cs)
      | cs =>
        if scheme == "file" then some (ofFilePath (afterSlash scheme cs))
        else some (ofPlain scheme cs)

/-- The uri of a file on a disk, by the names on the way to it. -/
def ofNames (names : List String) : Uri :=
  ⟨"file", some .blank, pathText (names.map fun name => name.toList.flatMap (escape .segment)), ""⟩

/-! ## Folders -/

/-- What the paths of the files in a folder start with: a slash at the end of
the folder says nothing. -/
def opening (u : Uri) : List Char :=
  if u.path.toList.getLast? == some '/' then u.path.toList else u.path.toList ++ ['/']

/-- The uri with another path, which is read again. A path without segments
stays without them. -/
def withPath (u : Uri) (path : List Char) : Uri :=
  let text := match path with
    | '/' :: rest =>
      if u.authority.isNone && !u.isRooted then
        String.ofList ("%2F".toList ++ rest.flatMap (escape .plain))
      else
        let segments := readSegments u.scheme rest
        if u.scheme == "file" then filePathText segments else pathText segments
    | path => String.ofList (path.flatMap (escape .plain))
  { u with path := text }

end Uri

end Workbench
