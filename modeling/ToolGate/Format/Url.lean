import ToolGate.Format.Url.Host

/-!
# Addresses of resources

An address begins with a scheme.  Behind it stand a host, maybe with a user
before it and a socket number behind it, and a path, which are all read leniently;
some schemes always have a host.  A text has the format if it is an address
with a host.
-/

namespace ToolGate.Format.Url

/-- What is known of a scheme. -/
inductive Scheme where
  /-- Addresses of files. -/
  | file
  /-- Schemes whose addresses always have a host. -/
  | hosted
  /-- All others. -/
  | other
deriving DecidableEq, Repr

namespace Scheme

/-- The scheme of a name. -/
def ofName : String → Scheme
  | "file" => .file
  | "http" => .hosted
  | "https" => .hosted
  | "ws" => .hosted
  | "wss" => .hosted
  | "ftp" => .hosted
  | _ => .other

end Scheme

/-- A control character or a space, which does not count at either end of a text. -/
def isOuterBlank (c : Char) : Bool :=
  c.toNat ≤ 32

/-- A character that counts nowhere. -/
def isIgnored (c : Char) : Bool :=
  c == '\t' || c == '\n' || c == '\r'

/-- The characters that count. -/
def significant (text : List Char) : List Char :=
  let trimmed := ((text.dropWhile isOuterBlank).reverse.dropWhile isOuterBlank).reverse
  trimmed.filter fun c => !isIgnored c

/-- A character of a scheme. -/
def isSchemeChar (c : Char) : Bool :=
  c.isAlpha || c.isDigit || c == '+' || c == '-' || c == '.'

/-- Read a scheme. -/
def readScheme : List Char → Option (Scheme × List Char)
  | [] => none
  | c :: rest =>
      if c.isAlpha then
        match (c :: rest).span isSchemeChar with
        | (name, ':' :: rest) => some (.ofName (String.ofList (name.map Char.toLower)), rest)
        | _ => none
      else none

/-- A character that ends the part with the host; a backslash does so only in some schemes. -/
def endsAuthority (backslash : Bool) (c : Char) : Bool :=
  c == '/' || c == '?' || c == '#' || (backslash && c == '\\')

/-- The parts before and behind the last `@`. -/
def splitUser (text : List Char) : Option (List Char × List Char) :=
  match text.reverse.span (· != '@') with
  | (_, []) => none
  | (behind, _ :: before) => some (before.reverse, behind.reverse)

/-- Read a user, if one is there; the result tells whether there is one that is not empty. -/
def readUser (backslash : Bool) (text : List Char) : Option (Bool × List Char) :=
  let (scope, rest) := text.span fun c => !endsAuthority backslash c
  match splitUser scope with
  | none => some (false, text)
  | some ([], []) => if rest.isEmpty then some (false, []) else none
  | some (user, behind) => some (user != [] && user != [':'], behind ++ rest)

/-- The number of characters of a host, which ends at a colon outside of brackets. -/
def hostLength (backslash : Bool) : (bracketed : Bool) → List Char → Nat
  | _, [] => 0
  | bracketed, c :: rest =>
      if (c == ':' && !bracketed) || endsAuthority backslash c then 0
      else if c == '[' then hostLength backslash true rest + 1
      else if c == ']' then hostLength backslash false rest + 1
      else hostLength backslash bracketed rest + 1

/-- A socket number has digits only, which write a number of two bytes. -/
def isSocketNumber (digits : List Char) : Bool :=
  digits.all Char.isDigit
    && decide (digits.foldl (fun value c => value * 10 + (c.toNat - '0'.toNat)) 0 < UInt16.size)

/-- What a colon puts behind a host is a socket number. -/
def hasGoodSocket (text : List Char) : Bool :=
  match text with
  | ':' :: rest => isSocketNumber (rest.takeWhile fun c => !endsAuthority true c)
  | _ => true

/-- Whether an address has a host, given what stands behind the two slashes; if it is one. -/
def authorityHasHost? (hosted : Bool) (text : List Char) : Option Bool := do
  let (hasUser, text) ← readUser hosted text
  let length := hostLength hosted false text
  let name := text.take length
  let host ← if hosted then Host.ofText? name else Host.ofOpaqueText? name
  let rest := text.drop length
  if !hasGoodSocket rest || (host.isEmpty && (hasUser || rest.head? == some ':')) then none
  else some !host.isEmpty

/-! ## Files -/

/-- A letter with a colon or a bar names a drive. -/
def isDrive : List Char → Bool
  | [letter, mark] => letter.isAlpha && (mark == ':' || mark == '|')
  | _ => false

/-- A slash of either kind. -/
def isSlash (c : Char) : Bool :=
  c == '/' || c == '\\'

/-- The segments of a path, without the slash before the first. -/
def segments : List Char → List (List Char)
  | [] => [[]]
  | c :: rest =>
      if isSlash c then [] :: segments rest
      else
        match segments rest with
        | [] => [[c]]
        | segment :: others => (c :: segment) :: others

/-- How many points a segment stands for, if it stands for nothing else. -/
def pointCount? : List Char → Option Nat
  | [] => some 0
  | '.' :: rest => (pointCount? rest).map (· + 1)
  | '%' :: '2' :: 'e' :: rest => (pointCount? rest).map (· + 1)
  | '%' :: '2' :: 'E' :: rest => (pointCount? rest).map (· + 1)
  | _ => none

/-- A drive stands at the root of a path; `depth` segments have been read. -/
def hasDriveAtRoot : (depth : Nat) → List (List Char) → Bool
  | _, [] => false
  | depth, segment :: rest =>
      if pointCount? segment = some 1 then hasDriveAtRoot depth rest
      else if pointCount? segment = some 2 then hasDriveAtRoot (depth - 1) rest
      else (depth == 0 && isDrive segment) || hasDriveAtRoot (depth + 1) rest

/-- Whether the address of a file has a host, given what stands behind the scheme. -/
def fileHasHost? (text : List Char) : Option Bool :=
  match text with
  | first :: second :: text =>
      if isSlash first && isSlash second then
        let (name, rest) := text.span fun c => !endsAuthority true c
        if name.isEmpty || isDrive name then some false
        else do
          let host ← Host.ofText? name
          let path := (rest.takeWhile fun c => c != '?' && c != '#').drop 1
          some (host != .domain ["localhost".toList] && !hasDriveAtRoot 0 (segments path))
      else some false
  | _ => some false

/-- Whether an address has a host; nothing if the text is no address. -/
def hasHost? (text : List Char) : Option Bool := do
  let (scheme, rest) ← readScheme (significant text)
  match scheme, rest with
  | .file, rest => fileHasHost? rest
  | .hosted, rest => authorityHasHost? true (rest.dropWhile isSlash)
  | .other, '/' :: '/' :: rest => authorityHasHost? false rest
  | .other, _ => some false

/-- The text is an address with a host. -/
def accepts (text : String) : Bool :=
  hasHost? text.toList == some true

end ToolGate.Format.Url
