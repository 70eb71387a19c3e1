import TrafficTrace.Url.Basic
import TrafficTrace.Url.Percent

/-! Reading addresses, alone or relative to another one. Dots in the path are followed, the parts are
percent encoded, and the default port is left out. -/
namespace TrafficTrace.Url

def isSlash (special : Bool) (c : Char) : Bool := c = '/' || (special && c = '\\')

/-- The text without blanks and control characters around it, tabs and line ends. -/
def cleaned (s : String) : List Char :=
  let outer (c : Char) : Bool := c.toNat ≤ 32
  (Text.dropEndWhile outer (s.toList.dropWhile outer)).filter fun c =>
    c ≠ '\t' && c ≠ '\n' && c ≠ '\r'

def isAsciiLetter (c : Char) : Bool := ('a' ≤ c && c ≤ 'z') || ('A' ≤ c && c ≤ 'Z')

/-- A scheme in small letters, and what follows its colon. -/
def splitScheme? (cs : List Char) : Option (String × List Char) :=
  let word := cs.takeWhile fun c =>
    isAsciiLetter c || ('0' ≤ c && c ≤ '9') || c = '+' || c = '-' || c = '.'
  match cs.drop word.length with
  | ':' :: rest =>
    if (word.head?.map isAsciiLetter).getD false then
      some (Text.asciiLower (String.ofList word), rest)
    else none
  | _ => none

def isDot (s : String) : Bool := s = "." || Text.asciiLower s = "%2e"

def isDoubleDot (s : String) : Bool :=
  s = ".." || ["%2e%2e", ".%2e", "%2e."].contains (Text.asciiLower s)

/-- Adds a segment; `last` where no slash follows it. -/
def addSegment (parts : List String) (segment : String) (last : Bool) : List String :=
  let ending := if last then [""] else []
  if isDoubleDot segment then parts.dropLast ++ ending
  else if isDot segment then parts ++ ending
  else parts ++ [segment]

def addSegments (parts : List String) : List (List Char) → List String
  | [] => parts
  | [s] => addSegment parts (String.ofList (percentEncode inPath s)) true
  | s :: ss => addSegments (addSegment parts (String.ofList (percentEncode inPath s)) false) ss

def endsPath (c : Char) : Bool := c = '?' || c = '#'

/-- The segments of a relative path after those of a base, and what follows the path. -/
def readSegments (special : Bool) (parts : List String) (cs : List Char) :
    List String × List Char :=
  let path := cs.takeWhile (!endsPath ·)
  (addSegments parts (Text.pieces (isSlash special) path), cs.drop path.length)

/-- Query and fragment. -/
def readTail (special : Bool) (cs : List Char) : Option String × Option String :=
  let (query, cs) : Option String × List Char := match cs with
    | '?' :: rest =>
      let q := rest.takeWhile (· ≠ '#')
      (some (String.ofList (percentEncode (if special then inSpecialQuery else inQuery) q)),
        rest.drop q.length)
    | cs => (none, cs)
  let fragment := match cs with
    | '#' :: rest => some (String.ofList (percentEncode inFragment rest))
    | _ => none
  (query, fragment)

def withTail (special : Bool) (u : Url) (cs : List Char) : Url :=
  let (query, fragment) := readTail special cs
  { u with query, fragment }

/-- User and password up to the last at sign of the authority, and what follows it. -/
def readUser (special : Bool) (cs : List Char) :
    Except UrlError (String × Option String × List Char) :=
  let authority := cs.takeWhile fun c => !isSlash special c && !endsPath c
  let outside := cs.drop authority.length
  match Text.splitLast '@' authority with
  | none => .ok ("", none, cs)
  | some ([], host) =>
    if host.isEmpty && !outside.isEmpty then .error .emptyHost else .ok ("", none, host ++ outside)
  | some (user, host) =>
    let encode (cs : List Char) := String.ofList (percentEncode inUserInfo cs)
    let (name, password) := match Text.splitFirst ':' user with
      | some (n, p) => (encode n, if p.isEmpty then none else some (encode p))
      | none => (encode user, none)
    .ok (name, password, host ++ outside)

/-- The characters of a host; a colon between brackets belongs to it. -/
def takeHost (special inside : Bool) : List Char → List Char
  | [] => []
  | c :: cs =>
    if (c = ':' && !inside) || isSlash special c || endsPath c then []
    else c :: takeHost special (if c = '[' then true else if c = ']' then false else inside) cs

/-- The number after a colon, and what follows it. -/
def readPort (special : Bool) (cs : List Char) : Except UrlError (Option Nat × List Char) :=
  let digits := cs.takeWhile fun c => '0' ≤ c && c ≤ '9'
  let rest := cs.drop digits.length
  let n := digits.foldl (fun n c => n * 10 + (c.toNat - 48)) 0
  let ends := match rest with
    | [] => true
    | c :: _ => isSlash special c || c = '\\' || endsPath c
  if n > 65535 || !ends then .error .invalidPort
  else .ok (if digits.isEmpty then none else some n, rest)

/-- What follows the two slashes of an address. -/
def readAuthority (scheme : String) (cs : List Char) : Except UrlError Url := do
  let special := isSpecial scheme
  let (username, password, cs) ← readUser special cs
  let text := takeHost special false cs
  let rest := cs.drop text.length
  if special && text.isEmpty then throw .emptyHost
  let host ← if special then Host.read text else Host.readBare text
  if text.isEmpty && (rest.head? = some ':' || username ≠ "" || password.isSome) then
    throw .emptyHost
  let (port, rest) ← match rest with
    | ':' :: rest => readPort special rest
    | rest => .ok (none, rest)
  let port := if port = defaultPort? scheme then none else port
  let (parts, rest) := match rest with
    | [] => (if special then [""] else [], [])
    | c :: after =>
      if isSlash special c then readSegments special [] after
      else if endsPath c && !special then ([], c :: after)
      else readSegments special [] (c :: after)
  return withTail special ⟨scheme, username, password, some host, port, .segments parts, none, none⟩
    rest

/-- An address in the file system; only a well formed host is asked for. -/
def readFile (cs : List Char) : Except UrlError Url := do
  let (host, rest) ← match cs with
    | a :: b :: rest =>
      if isSlash true a && isSlash true b then do
        let text := takeHost true true rest
        let host ← if text.isEmpty || text.length = 2 then .ok (Host.name "") else Host.read text
        pure (if host = .name "localhost" then Host.name "" else host, rest.drop text.length)
      else .ok (.name "", cs)
    | cs => .ok (.name "", cs)
  let (parts, rest) := readSegments true [] (match rest with
    | c :: after => if isSlash true c then after else rest
    | [] => [])
  return withTail true ⟨"file", "", none, some host, none, .segments parts, none, none⟩ rest

/-- An address without a scheme, relative to one with segments. -/
def readRelative (base : Url) (parts : List String) (cs : List Char) : Except UrlError Url :=
  let special := isSpecial base.scheme
  let plain := { base with fragment := none }
  match cs with
  | [] => .ok plain
  | '?' :: _ => .ok (withTail special plain cs)
  | '#' :: _ => .ok { withTail special plain cs with query := base.query }
  | c :: after =>
    if isSlash special c then
      match after with
      | d :: rest =>
        if isSlash special d then
          readAuthority base.scheme (if special then rest.dropWhile (isSlash true) else rest)
        else
          let (parts, tail) := readSegments special [] after
          .ok (withTail special { plain with path := .segments parts } tail)
      | [] => .ok { plain with path := .segments [""], query := none }
    else
      let (parts, tail) := readSegments special parts.dropLast cs
      .ok (withTail special { plain with path := .segments parts } tail)

/-- What follows the scheme of an address. -/
def readAfterScheme (base : Option Url) (scheme : String) (cs : List Char) : Except UrlError Url :=
  let special := isSpecial scheme
  if scheme = "file" then readFile cs
  else if special then
    let slashes := (cs.takeWhile (isSlash true)).length
    match base with
    | some ⟨s, u, p, h, n, .segments parts, q, f⟩ =>
      if slashes < 2 && s = scheme then readRelative ⟨s, u, p, h, n, .segments parts, q, f⟩ parts cs
      else readAuthority scheme (cs.drop slashes)
    | _ => readAuthority scheme (cs.drop slashes)
  else match cs with
    | '/' :: '/' :: rest => readAuthority scheme rest
    | '/' :: rest =>
      let (parts, tail) := readSegments false [] rest
      .ok (withTail false ⟨scheme, "", none, none, none, .segments parts, none, none⟩ tail)
    | cs =>
      let text := cs.takeWhile (!endsPath ·)
      let path := String.ofList (percentEncode (fun n => 32 ≤ n && n ≤ 126) text)
      .ok (withTail false ⟨scheme, "", none, none, none, .bare path, none, none⟩
        (cs.drop text.length))

def readFrom (base : Option Url) (text : String) : Except UrlError Url :=
  let cs := cleaned text
  match splitScheme? cs with
  | some (scheme, rest) => readAfterScheme base scheme rest
  | none =>
    match base with
    | none => .error .relativeWithoutBase
    | some b =>
      match b.path with
      | .segments parts => readRelative b parts cs
      | .bare _ => if cs.head? = some '#' then readRelative b [] cs else .error .relativeToBare

/-- The address that a text is. -/
def read (text : String) : Except UrlError Url := readFrom none text

/-- The address that a text is relative to a base. -/
def join (base : Url) (text : String) : Except UrlError Url := readFrom (some base) text

/-- The address with another host; a colon and what follows it is left out. -/
def withHost (u : Url) (text : String) : Except UrlError Url := do
  let cs := text.toList
  let special := isSpecial u.scheme
  if cs.isEmpty && special then throw .emptyHost
  let bracketed := cs.head? = some '[' && cs.getLast? = some ']'
  let name := if bracketed then cs else cs.takeWhile (· ≠ ':')
  if name.isEmpty && !cs.isEmpty then throw .invalidHostCharacter
  let host ← if special then Host.read name else Host.readBare name
  return { u with host := some host }

/-- The user in an address and the password, decoded, unless the user is no text. -/
def user? (u : Url) : Option (String × Option String) := do
  let decode (s : String) : Option String := Text.ofUtf8? (percentDecode (Text.utf8 s.toList))
  let name ← decode u.username
  if name = "" && u.password.isNone then none
  return (name, u.password.bind decode)

/-- Adds pairs to the query. -/
def withPairs (u : Url) (ps : List (String × String)) : Url :=
  if ps.isEmpty then u
  else
    let added := String.ofList (formPairs ps)
    let query := match u.query with
      | none | some "" => added
      | some q => q ++ "&" ++ added
    { u with query := some query }

example : (read " HTTPS://u@x.test:443/a/./%2E%2e/b c?q#f").toOption.map toText =
    some "https://u@x.test/b%20c?q#f" := by decide +kernel

end TrafficTrace.Url
