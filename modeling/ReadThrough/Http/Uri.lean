/-!
# Request targets

A target is a URL with a scheme and an authority, a path with an optional
query, the asterisk, or an authority alone.  What follows a number sign is not
part of a target.  A network tells which authorities accept connections.
-/

namespace ReadThrough.Http

/-- The parts of a target.  Absent parts are empty. -/
structure Uri where
  scheme : String
  authority : String
  path : String
  query : Option String
  deriving DecidableEq, Repr, Inhabited

namespace Uri

def byteLimit : Nat := 65534

def schemeLimit : Nat := 64

/-- Whether a character may stand in a scheme or be the colon behind it. -/
def isSchemeChar (char : Char) : Bool :=
  char.isAlphanum || char == '+' || char == '-' || char == '.' || char == ':' || char == '~'

def endsAuthority (char : Char) : Bool :=
  char == '/' || char == '?' || char == '#'

def isAuthorityChar (char : Char) : Bool :=
  char.isAlphanum ||
    ['!', '$', '&', '\'', '(', ')', '*', '+', ',', '-', '.', ':', ';', '=', '@', '[', ']', '_',
      '~', '%'].contains char

def isPathChar (char : Char) : Bool :=
  let point := char.toNat
  point == 0x21 || point == 0x22 || (0x24 ≤ point && point ≤ 0x3B) || point == 0x3D ||
    (0x40 ≤ point && point ≤ 0x5F) || (0x61 ≤ point && point ≤ 0x7E)

def isQueryChar (char : Char) : Bool :=
  let point := char.toNat
  point == 0x21 || (0x24 ≤ point && point ≤ 0x3B) || point == 0x3D ||
    (0x3F ≤ point && point ≤ 0x7E)

structure AuthorityState where
  /-- The colons that may stand before a port. -/
  colons : Nat
  opened : Bool
  closed : Bool
  /-- Whether a percent sign may belong to the host. -/
  percent : Bool
  deriving DecidableEq, Repr

def AuthorityState.start : AuthorityState := ⟨0, false, false, false⟩

def AuthorityState.next? (state : AuthorityState) (char : Char) : Option AuthorityState :=
  match char with
  | ':' => if 8 ≤ state.colons then none else some { state with colons := state.colons + 1 }
  | '[' => if state.percent || state.opened then none else some { state with opened := true }
  | ']' =>
    if !state.opened || state.closed then none
    else some { state with closed := true, colons := 0, percent := false }
  | '@' => some { state with colons := 0, percent := false }
  | '%' => some { state with percent := true }
  | other => if isAuthorityChar other then some state else none

def isAuthority (chars : List Char) : Bool :=
  match chars.foldlM AuthorityState.next? .start with
  | some state =>
    state.opened == state.closed && state.colons ≤ 1 && !state.percent &&
      chars.getLast? != some '@'
  | none => false

def pathAndQuery? (chars : List Char) : Option (String × Option String) :=
  let path := chars.takeWhile isPathChar
  match chars.dropWhile isPathChar with
  | [] | '#' :: _ => some (String.ofList path, none)
  | '?' :: rest =>
    let query := rest.takeWhile isQueryChar
    match rest.dropWhile isQueryChar with
    | [] | '#' :: _ => some (String.ofList path, some (String.ofList query))
    | _ => none
  | _ => none

/--
The scheme and what follows its mark.  There is none if a character is out of
place before the first colon, or if no two slashes follow that colon.
-/
def splitScheme? (chars : List Char) : Option (List Char × List Char) :=
  let scheme := chars.takeWhile fun char => isSchemeChar char && char != ':'
  match chars.drop scheme.length with
  | ':' :: '/' :: '/' :: rest => some (scheme, rest)
  | _ => none

def absolute? (scheme rest : List Char) : Option Uri := do
  let authority := rest.takeWhile fun char => !endsAuthority char
  if authority.isEmpty || !isAuthority authority then none
  else
    let (path, query) ← pathAndQuery? (rest.drop authority.length)
    return ⟨String.ofList scheme, String.ofList authority, path, query⟩

def authorityOnly? (chars : List Char) : Option Uri :=
  if chars.any endsAuthority || !isAuthority chars then none
  else some ⟨"", String.ofList chars, "", none⟩

def parse? (text : String) : Option Uri :=
  if byteLimit < text.utf8ByteSize then none
  else
    match text.toList with
    | [] => none
    | ['*'] => some ⟨"", "", "*", none⟩
    | '/' :: rest => do
      let (path, query) ← pathAndQuery? ('/' :: rest)
      return ⟨"", "", path, query⟩
    | chars =>
      match splitScheme? chars with
      | some (scheme, rest) =>
        if schemeLimit < scheme.length then none else absolute? scheme rest
      | none => authorityOnly? chars

end Uri

/-- A network, told by the authorities that accept connections. -/
structure Network where
  accepts : String → Bool

namespace Network

def isolated : Network := ⟨fun _ => false⟩

/-- What comes back for a request: nothing is exchanged without a connection. -/
def exchange {α : Type} (network : Network) (unreachable : α) (serve : Uri → α) (uri : Uri) :
    α :=
  if network.accepts uri.authority then serve uri else unreachable

end Network

end ReadThrough.Http
