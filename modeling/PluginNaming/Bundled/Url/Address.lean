import PluginNaming.Bundled.Url.Host

set_option autoImplicit false

namespace PluginNaming.Bundled

open PluginNaming.Text

structure Address where
  scheme : List Char
  username : List Char
  password : List Char
  host : Host
  port : Option Nat
  path : List Char
  query : Option (List Char)
  fragment : Option (List Char)

inductive SchemeClass where
  | special
  | file
  | other
deriving DecidableEq

def schemeClass (scheme : List Char) : SchemeClass :=
  if scheme = ['f', 'i', 'l', 'e'] then .file
  else if [['h', 't', 't', 'p'], ['h', 't', 't', 'p', 's'], ['w', 's'], ['w', 's', 's'],
      ['f', 't', 'p']].contains scheme then .special
  else .other

def defaultPort? (scheme : List Char) : Option Nat :=
  if scheme = ['h', 't', 't', 'p'] ∨ scheme = ['w', 's'] then some 80
  else if scheme = ['h', 't', 't', 'p', 's'] ∨ scheme = ['w', 's', 's'] then some 443
  else if scheme = ['f', 't', 'p'] then some 21
  else none

def isOuter (c : Char) : Bool := c.toNat ≤ 0x20

def isInnerBreak (c : Char) : Bool := c == '\t' || c == '\n' || c == '\r'

def trimOuter (text : List Char) : List Char :=
  ((text.dropWhile isOuter).reverse.dropWhile isOuter).reverse

def meaningful (text : List Char) : List Char :=
  (trimOuter text).filter fun c => !isInnerBreak c

def isSchemePart (c : Char) : Bool :=
  c.isAlphanum || c == '+' || c == '-' || c == '.'

def takeScheme? (text : List Char) : Option (List Char × List Char) :=
  match text with
  | [] => none
  | first :: _ =>
      if first.isAlpha then
        match text.span isSchemePart with
        | (scheme, ':' :: rest) => some (scheme.map Char.toLower, rest)
        | _ => none
      else none

def isSlash (slashes : SchemeClass) (c : Char) : Bool :=
  c == '/' || (c == '\\' && slashes != .other)

def endsAuthority (slashes : SchemeClass) (c : Char) : Bool :=
  isSlash slashes c || c == '?' || c == '#'

def splitLast? (separator : Char) (text : List Char) : Option (List Char × List Char) :=
  if text.contains separator then
    let after := (text.reverse.takeWhile (· != separator)).reverse
    some (text.take (text.length - after.length - 1), after)
  else none

def takeHost (slashes : SchemeClass) (inBrackets : Bool) : List Char → List Char × List Char
  | [] => ([], [])
  | c :: rest =>
      if endsAuthority slashes c || (c == ':' && !inBrackets) then ([], c :: rest)
      else
        let inside := if c == '[' then true else if c == ']' then false else inBrackets
        let (host, after) := takeHost slashes inside rest
        (c :: host, after)

def isDrive (segment : List Char) : Bool :=
  match segment with
  | [letter, mark] => letter.isAlpha && (mark == ':' || mark == '|')
  | _ => false

def isDot (segment : List Char) : Bool :=
  let small := segment.map Char.toLower
  small == ['.'] || small == ['%', '2', 'e']

def isDoubleDot (segment : List Char) : Bool :=
  match segment with
  | '.' :: rest => isDot rest
  | '%' :: two :: e :: rest => isDot ['%', two, e] && isDot rest
  | _ => false

def beginsDrive (segment : List Char) : Bool :=
  match segment with
  | letter :: mark :: rest =>
      isDrive [letter, mark] && (rest.isEmpty || rest.head? == some '\\')
  | _ => false

def stepBack (kept : List (List Char)) : List (List Char) :=
  if (kept.getLast?.map beginsDrive).getD false then kept else kept.dropLast

def resolveDots (kept : List (List Char)) : List (List Char) → List (List Char)
  | [] => kept
  | [last] =>
      if isDoubleDot last then stepBack kept ++ [[]]
      else if isDot last then kept ++ [[]]
      else kept ++ [last]
  | segment :: rest =>
      if isDoubleDot segment then resolveDots (stepBack kept) rest
      else if isDot segment then resolveDots kept rest
      else resolveDots (kept ++ [segment]) rest

def meetsDrive (kept : List (List Char)) : List (List Char) → Bool
  | [] => false
  | segment :: rest =>
      if isDoubleDot segment then meetsDrive (stepBack kept) rest
      else if isDot segment then meetsDrive kept rest
      else (kept.isEmpty && isDrive segment) || meetsDrive (kept ++ [segment]) rest

def segments (slashes : SchemeClass) (path : List Char) : List (List Char) :=
  let inner :=
    match path with
    | c :: rest => if isSlash slashes c then rest else path
    | [] => []
  (pieces (isSlash slashes) inner).map (percentEncode .path)

def normalPath (slashes : SchemeClass) (path : List Char) : List Char :=
  if slashes == .other && path.isEmpty then []
  else
    let resolved := resolveDots [] (segments slashes path)
    let resolved := if slashes == .file then
        let kept := resolved.dropWhile (·.isEmpty)
        if kept.isEmpty then [[]] else kept
      else resolved
    '/' :: join '/' resolved

def withoutFragment (text : List Char) : List Char :=
  text.takeWhile (· != '#')

def fragment? (text : List Char) : Option (List Char) :=
  match text.dropWhile (· != '#') with
  | [] => none
  | _ :: fragment => some (percentEncode .fragment fragment)

def query? (slashes : SchemeClass) (text : List Char) : Option (List Char) :=
  match (withoutFragment text).dropWhile (· != '?') with
  | [] => none
  | _ :: query =>
      some (percentEncode (if slashes == .other then .query else .specialQuery) query)

def pathOf (text : List Char) : List Char :=
  (withoutFragment text).takeWhile (· != '?')

def takePort (scheme text : List Char) : Except Defect (Option Nat × List Char) :=
  match text with
  | ':' :: afterColon =>
      let (digits, rest) := afterColon.span Char.isDigit
      let number := digits.foldl (fun total c => 10 * total + (c.toNat - '0'.toNat)) 0
      let ended :=
        match rest with
        | [] => true
        | c :: _ => c == '/' || c == '\\' || c == '?' || c == '#'
      if number ≤ 65535 && ended then
        if digits.isEmpty || defaultPort? scheme == some number then .ok (none, rest)
        else .ok (some number, rest)
      else .error .port
  | _ => .ok (none, text)

def credentials (userinfo : List Char) : List Char × List Char :=
  let (name, password) := userinfo.span (· != ':')
  (percentEncode .userinfo name, percentEncode .userinfo (password.drop 1))

def readAuthority (scheme : List Char) (slashes : SchemeClass) (text : List Char) :
    Except Defect Address := do
  let authority := text.takeWhile fun c => !endsAuthority slashes c
  let (userinfo, hostText) :=
    match splitLast? '@' authority with
    | none => ([], text)
    | some (userinfo, afterSign) =>
        (userinfo, afterSign ++ text.drop authority.length)
  let bareSign := userinfo.isEmpty && hostText.length < text.length
  if bareSign && (hostText.head?.map (endsAuthority slashes)).getD false then throw .emptyHost
  let (username, password) := credentials userinfo
  let (hostName, afterHost) := takeHost slashes false hostText
  if slashes == .special && hostName.isEmpty then throw .emptyHost
  let host ← if slashes == .special then Host.special hostName else Host.opaqueHost hostName
  if hostName.isEmpty && afterHost.head? == some ':' then throw .emptyHost
  let (port, rest) ← takePort scheme afterHost
  if hostName.isEmpty then
    throw (if username.isEmpty && password.isEmpty then .missingHost else .emptyHost)
  return {
    scheme, username, password, host, port
    path := normalPath slashes (pathOf rest)
    query := query? slashes rest
    fragment := fragment? rest }

def readFile (scheme : List Char) (text : List Char) : Except Defect Address := do
  match text with
  | first :: second :: afterSlashes =>
      if isSlash .file first && isSlash .file second then
        let (hostName, rest) := afterSlashes.span fun c => !endsAuthority .file c
        if hostName.isEmpty || isDrive hostName then throw .missingHost
        let host ← Host.special hostName
        if host = .name "localhost".toList then throw .missingHost
        if meetsDrive [] (segments .file (pathOf rest)) then throw .missingHost
        return {
          scheme, username := [], password := [], host, port := none
          path := normalPath .file (pathOf rest)
          query := query? .file rest
          fragment := fragment? rest }
      else throw .missingHost
  | _ => throw .missingHost

def Address.read (text : List Char) : Except Defect Address :=
  match takeScheme? (meaningful text) with
  | none => .error .relative
  | some (scheme, rest) =>
      match schemeClass scheme with
      | .file => readFile scheme rest
      | .special => readAuthority scheme .special (rest.dropWhile (isSlash .special))
      | .other =>
          match rest with
          | '/' :: '/' :: afterSlashes => readAuthority scheme .other afterSlashes
          | '/' :: _ => .error .missingHost
          | _ => .error .cannotBeBase

def Address.print (address : Address) : List Char :=
  let password := if address.password.isEmpty then [] else ':' :: address.password
  let userinfo :=
    if address.username.isEmpty && address.password.isEmpty then []
    else address.username ++ password ++ ['@']
  let port :=
    match address.port with
    | none => []
    | some number => ':' :: Nat.toDigits 10 number
  let query :=
    match address.query with
    | none => []
    | some text => '?' :: text
  let fragment :=
    match address.fragment with
    | none => []
    | some text => '#' :: text
  address.scheme ++ [':', '/', '/'] ++ userinfo ++ address.host.print ++ port ++ address.path ++
    query ++ fragment

end PluginNaming.Bundled
