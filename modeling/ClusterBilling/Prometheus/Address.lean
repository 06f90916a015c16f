import ClusterBilling.Encoding.Base64
import ClusterBilling.Encoding.Percent
import ClusterBilling.Encoding.Punycode
import ClusterBilling.Encoding.Utf8

/-! Addresses, in the form in which requests carry them. -/
namespace ClusterBilling.Prometheus

/-- The parts of an address. What comes after a question mark or a number sign has no part. -/
structure Address where
  /-- In lower case; empty if there is none. -/
  scheme : List Char
  /-- The name and the password, divided by a colon. -/
  user : List Char
  host : List Char
  /-- The digits after the host's colon; empty if there is none. -/
  number : List Char
  path : List Char
deriving DecidableEq, Repr

/-- The part before the first `c` and the part after it, if there is one. -/
def splitAt? (c : Char) (cs : List Char) : Option (List Char × List Char) :=
  match cs.dropWhile (· ≠ c) with
  | [] => none
  | _ :: rest => some (cs.takeWhile (· ≠ c), rest)

namespace Address

/-- Whether a text may stand for a scheme; an empty one stands for none. -/
def isScheme : List Char → Bool
  | [] => true
  | c :: cs => c.isAlpha && cs.all fun d => d.isAlphanum || "+.-".toList.contains d

/-- The scheme in front of a text, and the rest. -/
def takeScheme (cs : List Char) : List Char × List Char :=
  match splitAt? ':' cs with
  | some (name, rest) => if isScheme name then (name.map Char.toLower, rest) else ([], cs)
  | none => ([], cs)

/-- The host and the number of a text. A host in square brackets may hold colons. -/
def splitHost (cs : List Char) : List Char × List Char :=
  match cs with
  | '[' :: _ =>
    let length := cs.length - (cs.reverse.takeWhile (· ≠ ']')).length
    (cs.take length, (cs.drop length).drop 1)
  | _ => (splitAt? ':' cs).getD (cs, [])

/-- The parts of a text. -/
def ofChars (cs : List Char) : Address :=
  let (scheme, rest) := takeScheme cs
  let (authority, rest) := match rest with
    | '/' :: '/' :: rest =>
      let inside := fun (c : Char) => !"/?#".toList.contains c
      (rest.takeWhile inside, rest.dropWhile inside)
    | _ => ([], rest)
  let (user, site) := (splitAt? '@' authority).getD ([], authority)
  let (host, number) := splitHost site
  { scheme, user, host, number
    path := rest.takeWhile fun c => c ≠ '?' && c ≠ '#' }

/-- An address that says whom to ask. -/
def isAbsolute (a : Address) : Bool := !a.scheme.isEmpty && !a.host.isEmpty

/-- The number that a scheme stands for. -/
def defaultNumber (scheme : List Char) : List Char :=
  if scheme = "http".toList || scheme = "ws".toList then "80".toList
  else if scheme = "https".toList || scheme = "wss".toList then "443".toList
  else if scheme = "ftp".toList then "21".toList
  else []

/-- The number with its colon; nothing if it is that of the scheme. -/
def shownNumber (a : Address) : List Char :=
  let number := a.number.dropWhile (· = '0')
  if a.number.isEmpty || number = defaultNumber a.scheme then [] else ':' :: number

/-- The segments of a path without those of one or two points; two of them take back the segment
before, but for the empty first one. -/
def resolve (segments : List (List Char)) : List (List Char) :=
  let step := fun (done : List (List Char)) (segment : List Char) =>
    if segment = ['.'] then done
    else if segment = ['.', '.'] then (if done = [[]] then done else done.dropLast)
    else done ++ [segment]
  segments.foldl step []

/-- Characters that a path may hold as they are. -/
def isPlain (c : Char) : Bool :=
  0x20 < c.toNat && c.toNat < 0x7f && !"\"#<>?`\x7b\x7d".toList.contains c

/-- Characters that a user may hold as they are. -/
def isPlainInUser (c : Char) : Bool := isPlain c && !"/;=@[\\]^|".toList.contains c

/-- Characters that a host may hold as they are. -/
def isPlainInHost (c : Char) : Bool :=
  c.isAlphanum || "-._~!$&'()*+,;=\"`\x7b\x7d%|\\".toList.contains c

/-- A label of a host in ASCII. -/
def asciiLabel (label : List Char) : List Char :=
  if label.all (·.toNat < 0x80) then label else "xn--".toList ++ Encoding.Punycode.encode label

/-- The host in ASCII and in lower case. One in square brackets stays as it is. -/
def shownHost (a : Address) : List Char :=
  let host := a.host.map Char.toLower
  if a.host.head? = some '[' then a.host
  else if host.all (·.toNat < 0x80) then Encoding.percentEncoded isPlainInHost host
  else
    let labels := host.splitOnP fun c => ['.', '\u3002', '\uff0e', '\uff61'].contains c
    ['.'].intercalate (labels.map asciiLabel)

/-- The user in ASCII. -/
def shownUser (a : Address) : List Char := Encoding.percentEncoded isPlainInUser a.user

/-- The path in ASCII. Only a path that stands alone keeps its segments of one or two points. -/
def shownPath (a : Address) : List Char :=
  let isAlone := a.scheme.isEmpty && a.user.isEmpty && a.host.isEmpty && a.number.isEmpty
  let segments := a.path.splitOn '/'
  Encoding.percentEncoded isPlain
    (['/'].intercalate (if isAlone then segments else resolve segments))

/-- The address as a request carries it. One that does not say whom to ask is left with its path. -/
def render (a : Address) : List Char :=
  if a.isAbsolute then
    let user := if a.user.isEmpty then [] else a.shownUser ++ ['@']
    a.scheme ++ "://".toList ++ user ++ a.shownHost ++ a.shownNumber ++ a.shownPath
  else '/' :: a.shownPath.dropWhile (· = '/')

/-- What an address with a user says in the header for authorization. -/
def credentials? (a : Address) : Option (List Char) :=
  let (name, password) := (splitAt? ':' a.shownUser).getD (a.shownUser, [])
  if name.isEmpty && password.isEmpty then none
  else
    let given := Encoding.percentDecoded (name ++ ':' :: password)
    let points := Encoding.utf8.scanner.lossy () (given.map fun c => UInt8.ofNat c.toNat)
    some ("Basic ".toList ++ Encoding.base64 (Text.toString ⟨points⟩).toUTF8.toList)

end Address
end ClusterBilling.Prometheus
