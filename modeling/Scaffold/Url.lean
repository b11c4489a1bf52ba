import Scaffold.Number.Literal
import Scaffold.Text.Split
import Scaffold.Text.Blank
import Scaffold.Text.Printable

/-!
# Url — well-formed addresses

`Url.scheme` reads the scheme of an address and refuses addresses whose host or port is malformed.
Tabs and line ends count nowhere, blanks and controls not at the ends.  Schemes of the web always
have a host: a name, or an address of the fourth or sixth version.
-/

namespace Scaffold

/-- Why an address is **malformed**. -/
inductive UrlFault where
  | relative
  | emptyHost
  | badName
  | badCharacter
  | badPort
  | badIPv4
  | badIPv6
deriving DecidableEq, Repr

/-- The sentence for a fault. -/
def UrlFault.message : UrlFault → String
  | .relative => "relative URL without a base"
  | .emptyHost => "empty host"
  | .badName => "invalid international domain name"
  | .badCharacter => "invalid domain character"
  | .badPort => "invalid port number"
  | .badIPv4 => "invalid IPv4 address"
  | .badIPv6 => "invalid IPv6 address"

namespace Url

/-- The characters that count. -/
def significant (s : String) : List Char :=
  (Text.trimBy (fun c => decide (c.toNat ≤ 0x20)) s.toList).filter fun c =>
    c ≠ '\t' && c ≠ '\n' && c ≠ '\r'

/-- Schemes whose addresses always have a host. -/
def webSchemes : List String := ["http", "https", "ws", "wss", "ftp"]

/-- The scheme in lower case, and what follows its colon. -/
def splitScheme? (cs : List Char) : Option (String × List Char) :=
  match Text.splitOnce? ':' cs with
  | none => none
  | some (name, rest) =>
    match name with
    | [] => none
    | c :: more =>
      if c.isAlpha && more.all fun d => d.isAlphanum || d == '+' || d == '-' || d == '.' then
        some (String.ofList (name.map Char.toLower), rest)
      else none

/-! ## Addresses of the fourth version -/

/-- A part of an address: decimal, octal or hexadecimal.  `some none` is too large. -/
def part4? (cs : List Char) : Option (Option Nat) :=
  let read (base : Nat) (ds : List Char) : Option (Option Nat) :=
    if ds.isEmpty then some (some 0)
    else (Literal.readNat? base ds).map fun n => if n < Nat.pow 2 32 then some n else none
  match cs with
  | [] => none
  | '0' :: 'x' :: r | '0' :: 'X' :: r => read 16 r
  | '0' :: c :: r => read 8 (c :: r)
  | ds => read 10 ds

/-- Whether a name ends in a number, so that it has to be an address. -/
def endsInNumber (cs : List Char) : Bool :=
  let last :=
    match (Text.splitChar '.' cs).reverse with
    | [] :: p :: _ => p
    | [] :: [] => []
    | p :: _ => p
    | [] => []
  (!last.isEmpty && last.all Char.isDigit) || (part4? last).isSome

/-- Whether a text is an address of four bytes, the last part standing for all bytes left. -/
def isIPv4 (cs : List Char) : Bool :=
  let parts := Text.splitChar '.' cs
  let parts := if parts.getLast? = some [] then parts.dropLast else parts
  let numbers := parts.map part4?
  decide (parts.length ≤ 4) && numbers.all (fun n => n.any Option.isSome) &&
    (let ns : List Nat := numbers.map fun n => (n.getD none).getD 0
     ns.dropLast.all (fun n => decide (n ≤ 255)) &&
       decide ((ns.getLast?.getD 0) < Nat.pow 256 (5 - ns.length)))

/-! ## Addresses of the sixth version -/

/-- Whether a text is four decimal bytes without leading zeros. -/
def isDottedQuad (cs : List Char) : Bool :=
  let parts := Text.splitChar '.' cs
  parts.length == 4 && parts.all fun p =>
    !p.isEmpty && p.all Char.isDigit && (p.length == 1 || p.head? != some '0') &&
      ((Literal.readNat? 10 p).any fun n => decide (n ≤ 255))

/-- How many pieces of two bytes a list of groups holds, if all are well formed.  Only the last group
may be a dotted quad. -/
def pieces? : List (List Char) → Option Nat
  | [] => some 0
  | [g] =>
    if isDottedQuad g then some 2
    else if !g.isEmpty && decide (g.length ≤ 4) && (Literal.readNat? 16 g).isSome then some 1 else none
  | g :: gs =>
    if !g.isEmpty && decide (g.length ≤ 4) && (Literal.readNat? 16 g).isSome then
      (pieces? gs).map (· + 1)
    else none

/-- The groups before and after a doubled colon. -/
def splitDouble? : List Char → Option (List Char × List Char)
  | [] => none
  | ':' :: ':' :: r => some ([], r)
  | c :: cs => (splitDouble? cs).map fun p => (c :: p.1, p.2)

/-- The groups of a text without doubled colon. -/
def groups (cs : List Char) : List (List Char) := if cs.isEmpty then [] else Text.splitChar ':' cs

/-- Whether a text is an address of sixteen bytes. -/
def isIPv6 (cs : List Char) : Bool :=
  match splitDouble? cs with
  | none => pieces? (groups cs) == some 8
  | some (before, after) =>
    match pieces? (groups before), pieces? (groups after) with
    | some a, some b =>
      decide (a + b ≤ 7) && !(before.any (· == '.'))
    | _, _ => false

/-! ## Hosts -/

/-- The bytes a text stands for once percent escapes are resolved. -/
def unescape : List Char → List UInt8
  | '%' :: a :: b :: cs =>
    match Literal.readNat? 16 [a, b] with
    | some n => n.toUInt8 :: unescape cs
    | none => '%'.toString.toUTF8.toList ++ unescape (a :: b :: cs)
  | c :: cs => c.toString.toUTF8.toList ++ unescape cs
  | [] => []

/-- Characters no host name has. -/
def isForbidden (c : Char) : Bool :=
  if c.toNat < 0x80 then
    decide (c.toNat ≤ 0x20) || c.toNat == 0x7F ||
      "%#/:<>?@[\\]^`\x7b|\x7d".toList.contains c
  else Text.isBlank c || !Text.isPrintable c

/-- Checks a host of the web. -/
def checkHost (cs : List Char) : Except UrlFault Unit :=
  match cs with
  | '[' :: r =>
    if r.getLast? = some ']' && isIPv6 r.dropLast then .ok () else .error .badIPv6
  | cs =>
    match String.fromUTF8? (unescape cs).toByteArray with
    | none => .error .badName
    | some name =>
      let name := name.toList.filter fun c => c ≠ '\u00ad'
      if name.any isForbidden then .error .badName
      else if name.isEmpty then .error .emptyHost
      else if endsInNumber name && !isIPv4 name then .error .badIPv4
      else .ok ()

/-- Checks a host of any other scheme. -/
def checkOpaqueHost (cs : List Char) : Except UrlFault Unit :=
  match cs with
  | '[' :: r =>
    if r.getLast? = some ']' && isIPv6 r.dropLast then .ok () else .error .badIPv6
  | cs =>
    if cs.any fun c => c == '\x00' || " #/:<>?@[\\]^|".toList.contains c then .error .badCharacter
    else .ok ()

/-- Whether a character ends the part of an address with the host. -/
def endsAuthority (web : Bool) (c : Char) : Bool :=
  c == '/' || c == '?' || c == '#' || (web && c == '\\')

/-- The host at the front, and the rest; colons inside brackets belong to it. -/
def takeHost (web : Bool) : Bool → List Char → List Char × List Char
  | _, [] => ([], [])
  | inside, c :: cs =>
    if (c == ':' && !inside) || endsAuthority web c then ([], c :: cs)
    else
      let (host, rest) := takeHost web (if c == '[' then true else if c == ']' then false else inside) cs
      (c :: host, rest)

/-- Checks a port. -/
def checkPort (cs : List Char) : Except UrlFault Unit :=
  let digits := cs.takeWhile Char.isDigit
  if (Literal.readNat? 10 digits).any fun n => decide (n > 65535) then .error .badPort
  else
    match cs.dropWhile Char.isDigit with
    | [] => .ok ()
    | c :: _ => if endsAuthority true c then .ok () else .error .badPort

/-- What follows the user in front of the host; `none` if the user is all there is. -/
def dropUser (web : Bool) (cs : List Char) : Option (List Char) :=
  let authority := cs.takeWhile fun c => !endsAuthority web c
  let rest := cs.drop authority.length
  match (Text.splitChar '@' authority).reverse with
  | host :: user :: more =>
    if host.isEmpty && user.isEmpty && more.isEmpty && !rest.isEmpty then none
    else some (host ++ rest)
  | _ => some cs

/-- Checks what follows the two slashes. -/
def checkAuthority (web : Bool) (cs : List Char) : Except UrlFault Unit :=
  match dropUser web cs with
  | none => .error .emptyHost
  | some cs =>
    let (host, rest) := takeHost web false cs
    if host.isEmpty && (web || rest.head? == some ':') then .error .emptyHost
    else
      match (if web then checkHost host else checkOpaqueHost host) with
      | .error e => .error e
      | .ok () =>
        match rest with
        | ':' :: port => checkPort port
        | _ => .ok ()

/-- Checks the host of a file, which may be left out. -/
def checkFileHost (cs : List Char) : Except UrlFault Unit :=
  let host := cs.takeWhile fun c => !endsAuthority true c
  match host with
  | [] => .ok ()
  | [a, b] => if a.isAlpha && (b == ':' || b == '|') then .ok () else checkHost host
  | host => checkHost host

/-- The **scheme** of a well-formed address. -/
def scheme (s : String) : Except UrlFault String :=
  match splitScheme? (significant s) with
  | none => .error .relative
  | some (name, rest) =>
    let isSlash (c : Char) : Bool := c == '/' || c == '\\'
    let checked : Except UrlFault Unit :=
      if name = "file" then
        match rest with
        | a :: b :: r => if isSlash a && isSlash b then checkFileHost r else .ok ()
        | _ => .ok ()
      else if webSchemes.contains name then checkAuthority true (rest.dropWhile isSlash)
      else
        match rest with
        | '/' :: '/' :: r => checkAuthority false r
        | _ => .ok ()
    match checked with
    | .error e => .error e
    | .ok () => .ok name

end Url

end Scaffold
