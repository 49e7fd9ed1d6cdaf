import MeshNode.Url.Host

/-!
# Web addresses

A coordinator is named by a web address. It is read as browsers read one: blanks and control
characters around it and line breaks and tabs inside it do not count, the scheme and the host
have one spelling each, any number of slashes or backslashes may stand before the host, the
scheme's own port is not kept, and dots in the path are resolved. Printing gives the spelling
that everything compares and sends, so printing what was read from a printed address gives it
again.

Only the two web schemes are interpreted. An address of another scheme is refused by its name,
unless its host is already wrong.
-/

namespace MeshNode

/-- A web address. -/
structure Url where
  /-- Whether the connection is encrypted. -/
  secure : Bool
  user : String := ""
  password : Option String := none
  host : Url.Host
  /-- The port, where it is not the scheme's own. -/
  port : Option UInt16 := none
  /-- The names between the slashes of the path; a path that ends in a slash ends in an empty
  name. -/
  path : List String := [""]
  query : Option String := none
  fragment : Option String := none
  deriving DecidableEq, Repr

namespace Url

/-- Why a text is not a web address. -/
inductive Refusal where
  | malformed (flaw : Flaw)
  | foreignScheme (scheme : String)
  deriving DecidableEq, Repr

/-! ## Writing -/

/-- The name of the scheme. -/
def scheme (url : Url) : String := if url.secure then "https" else "http"

/-- The user and the password in front of the host. An empty password keeps no colon. -/
def userInfo (url : Url) : String :=
  match url.password with
  | some password => s!"{url.user}:{password}@"
  | none => if url.user.isEmpty then "" else s!"{url.user}@"

/-- The text of an address. -/
def print (url : Url) : String :=
  let port := match url.port with
    | some port => s!":{port.toNat}"
    | none => ""
  let query := match url.query with
    | some query => s!"?{query}"
    | none => ""
  let fragment := match url.fragment with
    | some fragment => s!"#{fragment}"
    | none => ""
  let path := Text.joined "/" url.path
  s!"{url.scheme}://{url.userInfo}{url.host.print}{port}/{path}{query}{fragment}"

/-- The address of another path on the same host. -/
def withPath (url : Url) (path : List String) : Url :=
  { url with path, query := none, fragment := none }

/-! ## The parts of an address -/

/-- Control characters and the space do not count at the ends. -/
def isEdge (c : Char) : Bool := c.toNat ≤ 0x20

/-- Drop what does not count: controls and spaces at the ends, tabs and line breaks anywhere. -/
def stripped (s : String) : List Char :=
  let cs := (s.toList.dropWhile isEdge).reverse.dropWhile isEdge
  cs.reverse.filter fun c => c ≠ '\t' && c ≠ '\n' && c ≠ '\r'

/-- Whether a character may stand in a scheme. -/
def isSchemeChar (c : Char) : Bool := c.isAlphanum || c = '+' || c = '-' || c = '.'

/-- The scheme in small letters and what stands behind its colon. -/
def splitScheme? (cs : List Char) : Option (String × List Char) :=
  match cs.dropWhile isSchemeChar with
  | ':' :: rest =>
    if cs.head?.any Char.isAlpha then
      some (Text.asciiLower (String.ofList (cs.takeWhile isSchemeChar)), rest)
    else none
  | _ => none

/-- Whether a slash of either kind. -/
def isSlash (c : Char) : Bool := c = '/' || c = '\\'

/-- Whether a character ends the part with the user and the host. In the web schemes a backslash
does so too. -/
def endsAuthority (special : Bool) (c : Char) : Bool :=
  c = '/' || c = '?' || c = '#' || (special && c = '\\')

/-- The user part before the last at sign, if there is one, and what stands behind it. -/
def splitUser (special : Bool) (cs : List Char) : Option (List Char) × List Char :=
  let authority := cs.takeWhile fun c => !endsAuthority special c
  let behind := (authority.reverse.takeWhile (· ≠ '@')).reverse
  if behind.length = authority.length then (none, cs)
  else
    let front := authority.length - behind.length - 1
    (some (authority.take front), cs.drop (front + 1))

/-- The user name and the password of a user part. The first colon separates them. -/
def readUser (cs : List Char) : String × Option String :=
  let password := (cs.dropWhile (· ≠ ':')).drop 1
  (encode userSet (cs.takeWhile (· ≠ ':')),
    if password.isEmpty then none else some (encode userSet password))

/-- The characters of the host, and the rest. A colon ends it outside of brackets. -/
def splitHost (special : Bool) (bracketed : Bool) : List Char → List Char × List Char
  | [] => ([], [])
  | c :: rest =>
    if endsAuthority special c || (c = ':' && !bracketed) then ([], c :: rest)
    else
      let (host, behind) := splitHost special (if c = '[' then true else bracketed && c ≠ ']') rest
      (c :: host, behind)

/-- Read the digits of a port. A number that is too large is refused before a wrong character. -/
def readPort : (port : Option Nat) → List Char → Except Flaw (Option Nat × List Char)
  | port, [] => .ok (port, [])
  | port, c :: rest =>
    match Text.digit? 10 c with
    | some digit =>
      let value := port.getD 0 * 10 + digit
      if value < 65536 then readPort (some value) rest else .error .invalidPort
    | none => if endsAuthority true c then .ok (port, c :: rest) else .error .invalidPort

/-- The port behind the host, if a colon stands there. -/
def portBehind : List Char → Except Flaw (Option Nat × List Char)
  | ':' :: rest => readPort none rest
  | cs => .ok (none, cs)

/-! ## Paths -/

/-- The spellings of one dot. -/
def dots : List String := [".", "%2e"]

/-- Whether a name stands for the directory itself. -/
def isHere (name : String) : Bool := dots.contains (Text.asciiLower name)

/-- Whether a name stands for the directory above. -/
def isAbove (name : String) : Bool :=
  (dots.flatMap fun a => dots.map (a ++ ·)).contains (Text.asciiLower name)

/-- Whether a name looks like a drive letter, which no name behind it removes. -/
def isDrive (name : String) : Bool :=
  match name.toList with
  | [letter, mark] => letter.isAlpha && (mark = ':' || mark = '|')
  | _ => false

/-- The directories, the innermost first, without the last one. -/
def leave : List String → List String
  | [] => []
  | name :: above => if isDrive name then name :: above else above

/-- Resolve the dots in the names of a path; `above` are the directories so far, the innermost
first. -/
def resolveDots (above : List String) : List String → List String
  | [] => above.reverse
  | [last] =>
    if isAbove last then ("" :: leave above).reverse
    else if isHere last then ("" :: above).reverse
    else (last :: above).reverse
  | name :: rest =>
    if isAbove name then resolveDots (leave above) rest
    else if isHere name then resolveDots above rest
    else resolveDots (name :: above) rest

/-- Read a path, which may lack its first slash. -/
def readPath (cs : List Char) : List String :=
  let cs := cs.map fun c => if c = '\\' then '/' else c
  let behind := match cs with
    | '/' :: rest => rest
    | _ => cs
  resolveDots [] ((Text.splitAt '/' behind).map (encode pathSet))

/-- Read a query and a fragment, each with its mark in front. -/
def readTail (cs : List Char) : Option String × Option String :=
  let query := cs.takeWhile (· ≠ '#')
  let fragment := cs.dropWhile (· ≠ '#')
  (query.head?.map fun _ => encode querySet (query.drop 1),
    fragment.head?.map fun _ => encode fragmentSet (fragment.drop 1))

/-! ## Whole addresses -/

/-- The port that a web scheme uses by itself. -/
def ownPort (secure : Bool) : Nat := if secure then 443 else 80

/-- The user part must not be empty where an address has one and no host behind it. -/
def checkUser (special : Bool) (user : Option (List Char)) (rest : List Char) : Except Flaw Unit :=
  if user = some [] ∧ rest.head?.any (endsAuthority special) then .error .emptyHost else .ok ()

/-- Read what stands behind the slashes of a web address. -/
def readAuthority (secure : Bool) (cs : List Char) : Except Flaw Url := do
  let (user, rest) := splitUser true cs
  checkUser true user rest
  let (hostText, rest) := splitHost true false rest
  if hostText.isEmpty then .error .emptyHost
  let host ← Host.parse hostText
  let (port, rest) ← portBehind rest
  let (name, password) := readUser (user.getD [])
  let isTail := fun c : Char => c = '?' || c = '#'
  let (query, fragment) := readTail (rest.dropWhile fun c => !isTail c)
  return {
    secure
    user := name
    password
    host
    port := (port.filter (· ≠ ownPort secure)).map UInt16.ofNat
    path := readPath (rest.takeWhile fun c => !isTail c)
    query
    fragment }

/-- Check what stands behind the slashes of an address that is not interpreted: its host may be
empty where it has neither a user nor a port. -/
def checkAuthority (cs : List Char) : Except Flaw Unit := do
  let (user, rest) := splitUser false cs
  checkUser false user rest
  let (host, rest) := splitHost false false rest
  Host.checkForeign host
  let named := (user.any fun name => !name.isEmpty && name ≠ [':'])
  if host.isEmpty && (rest.head? = some ':' || named) then .error .emptyHost
  (portBehind rest).map fun _ => ()

/-- Check the host that a file address names. -/
def checkFile (cs : List Char) : Except Flaw Unit :=
  match cs with
  | first :: second :: rest =>
    let host := rest.takeWhile fun c => !endsAuthority true c
    if !(isSlash first && isSlash second) || host.isEmpty || isDrive (String.ofList host) then
      .ok ()
    else (Host.parse host).map fun _ => ()
  | _ => .ok ()

/-- The foreign schemes that are read like the web schemes. -/
def webLike : List String := ["ws", "wss", "ftp"]

/-- Check an address of a foreign scheme. -/
def checkForeign (scheme : String) (cs : List Char) : Except Flaw Unit :=
  if webLike.contains scheme then (readAuthority true (cs.dropWhile isSlash)).map fun _ => ()
  else if scheme = "file" then checkFile cs
  else
    match cs with
    | '/' :: '/' :: rest => checkAuthority rest
    | _ => .ok ()

/-- Read a web address. -/
def parse (s : String) : Except Refusal Url :=
  match splitScheme? (stripped s) with
  | none => .error (.malformed .relative)
  | some (scheme, rest) =>
    if scheme = "http" ∨ scheme = "https" then
      (readAuthority (scheme = "https") (rest.dropWhile isSlash)).mapError .malformed
    else
      match checkForeign scheme rest with
      | .error flaw => .error (.malformed flaw)
      | .ok () => .error (.foreignScheme scheme)

end Url

end MeshNode
