import SqlMapping.Url.Host

/-!
# Urls

A url is divided into its components, each as it is written: escapes are left to whoever reads a
component. Paths lose their dot segments.
-/

namespace SqlMapping

/-- A url. -/
structure Url where
  scheme : String
  username : String := ""
  password : String := ""
  host : Url.Host := .absent
  port : Option Nat := none
  path : String
  query : Option String := none

namespace Url

/-- The schemes with a port of their own. -/
def wellKnown : List (String × Nat) :=
  [("http", 80), ("https", 443), ("ws", 80), ("wss", 443), ("ftp", 21)]

/-- The port of a well known scheme. -/
def defaultPort? (scheme : String) : Option Nat :=
  (wellKnown.find? (·.1 == scheme)).map (·.2)

/-- Whether a scheme may hold a character. -/
def isSchemeCharacter (c : Char) : Bool :=
  c.isAlphanum || c = '+' || c = '-' || c = '.'

/-- The scheme of a url, in small letters, and what follows its colon. -/
def splitScheme? (cs : List Char) : Option (String × List Char) :=
  match cs.dropWhile isSchemeCharacter with
  | ':' :: rest =>
    match cs with
    | c :: _ =>
      if c.isAlpha then
        some (String.ofList ((cs.takeWhile isSchemeCharacter).map Char.toLower), rest)
      else none
    | [] => none
  | _ => none

/-- Whether a character ends the path or what is before it. -/
def endsPath (c : Char) : Bool :=
  c = '?' || c = '#'

/-- Whether a character divides the segments of a path. -/
def isSlash (backslash : Bool) (c : Char) : Bool :=
  c = '/' || backslash && c = '\\'

/-- The text of a host with what follows it; a colon within brackets belongs to the host. -/
def splitHost (bracketed : Bool) : List Char → List Char × List Char
  | [] => ([], [])
  | c :: cs =>
    if c = ':' ∧ ¬bracketed then ([], c :: cs)
    else
      let (host, rest) := splitHost (c = '[' || bracketed && c != ']') cs
      (c :: host, rest)

/-- The port after a host and what follows it, which a backslash begins. -/
def readPort (cs : List Char) : Except Fault (Option Nat × List Char) :=
  let written := cs.takeWhile Char.isDigit
  let rest := cs.dropWhile Char.isDigit
  let port := written.foldl (fun n c => 10 * n + (c.toNat - 48)) 0
  if 65535 < port || !(rest.isEmpty || rest.head? = some '\\') then .error .invalidPort
  else .ok (if written.isEmpty then none else some port, rest)

/-- Whether a segment names a drive: a letter and a colon or bar, and then nothing or a
backslash. -/
def namesDrive : List Char → Bool
  | c :: d :: cs => c.isAlpha && (d = ':' || d = '|') && (cs.isEmpty || cs.head? = some '\\')
  | _ => false

/-- A segment with its escaped dots read. -/
def plainDots : List Char → List Char
  | '%' :: '2' :: c :: cs =>
    if c = 'e' || c = 'E' then '.' :: plainDots cs else '%' :: '2' :: c :: cs
  | '.' :: cs => '.' :: plainDots cs
  | cs => cs

/-- The segments of a path without dot segments; `kept` are those kept so far, the last first.
Two dots take back a segment, unless it names a drive. -/
def withoutDots (kept : List (List Char)) : List (List Char) → List (List Char)
  | [] => kept.reverse
  | s :: ss =>
    let close (kept : List (List Char)) := if ss.isEmpty then [] :: kept else kept
    match plainDots s with
    | ['.'] => withoutDots (close kept) ss
    | ['.', '.'] =>
      match kept with
      | [] => withoutDots (close []) ss
      | k :: ks => withoutDots (close (if namesDrive k then k :: ks else ks)) ss
    | _ => withoutDots (s :: kept) ss

def normalPath (backslash : Bool) (cs : List Char) : String :=
  match cs with
  | [] => if backslash then "/" else ""
  | c :: rest =>
    let segments := if isSlash backslash c then rest else c :: rest
    let slashes := segments.map fun c => if isSlash backslash c then '/' else c
    String.ofList ('/' :: ['/'].intercalate (withoutDots [] (Text.splitAll '/' slashes)))

/-- The query a text begins with, if it begins with one. -/
def queryOf : List Char → Option String
  | '?' :: cs => some (String.ofList (cs.takeWhile (· != '#')))
  | _ => none

/-- A url with a path and a query. -/
def withPath (u : Url) (backslash : Bool) (cs : List Char) : Url :=
  { u with
    path := normalPath backslash (cs.takeWhile (!endsPath ·))
    query := queryOf (cs.dropWhile (!endsPath ·)) }

/-- The url of a scheme from the text after its two slashes. The user ends at the last `@` before
the path, and a user needs a host. -/
def readAuthority (scheme : String) (cs : List Char) : Except Fault Url := do
  let known := (defaultPort? scheme).isSome
  let stops (c : Char) : Bool := isSlash known c || endsPath c
  let authority := cs.takeWhile (!stops ·)
  let rest := cs.dropWhile (!stops ·)
  let (user, location) := match Text.splitLast? '@' authority with
    | some (user, location) => (some user, location)
    | none => (none, authority)
  let (username, password) := Text.splitAt ':' (user.getD [])
  if user = some [] ∧ location = [] ∧ rest ≠ [] then throw Fault.emptyHost
  let (hostText, after) := splitHost false location
  if known ∧ hostText = [] then throw Fault.emptyHost
  let host ← if known then Host.readDomain hostText else Host.readAny hostText
  if host = .absent ∧ after ≠ [] then throw Fault.emptyHost
  let (port, left) ← readPort (after.drop 1)
  if host = .absent ∧ (username ≠ [] ∨ (password.getD []) ≠ []) then throw Fault.emptyHost
  return withPath
    { scheme, host, path := ""
      username := String.ofList username
      password := String.ofList (password.getD [])
      port := if port = defaultPort? scheme then none else port }
    known (left ++ rest)

/-- The url of a file from the text after its scheme. -/
def readFile (cs : List Char) : Except Fault Url := do
  match cs with
  | a :: b :: rest =>
    if isSlash true a && isSlash true b then
      let stops (c : Char) : Bool := isSlash true c || endsPath c
      let hostText := rest.takeWhile (!stops ·)
      if hostText = [] || namesDrive hostText then
        return withPath { scheme := "file", path := "" } true rest
      let host ← Host.readDomain hostText
      let host := if host = .name "localhost" then .absent else host
      return withPath { scheme := "file", host, path := "" } true (rest.dropWhile (!stops ·))
    else return withPath { scheme := "file", path := "" } true cs
  | _ => return withPath { scheme := "file", path := "" } true cs

/-- A text as the parts of a url are read from it: nothing around it up to the blank, and no tabs
or line ends in it. -/
def cleaned (text : String) : List Char :=
  let inner := (text.toList.dropWhile (·.toNat ≤ 32)).reverse.dropWhile (·.toNat ≤ 32)
  inner.reverse.filter fun c => c != '\t' && c != '\n' && c != '\r'

def parse (text : String) : Except Fault Url :=
  match splitScheme? (cleaned text) with
  | none => .error .noBase
  | some (scheme, rest) =>
    if scheme = "file" then readFile rest
    else if (defaultPort? scheme).isSome then
      readAuthority scheme (rest.dropWhile (isSlash true))
    else
      match rest with
      | '/' :: '/' :: rest => readAuthority scheme rest
      | '/' :: _ => .ok (withPath { scheme, path := "" } false rest)
      | _ =>
        .ok { scheme
              path := String.ofList (rest.takeWhile (!endsPath ·))
              query := queryOf (rest.dropWhile (!endsPath ·)) }

end Url

end SqlMapping
