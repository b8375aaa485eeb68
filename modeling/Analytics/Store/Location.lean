import Analytics.Error
import Analytics.Number.Reading
import Analytics.Sql.Dialect
import Analytics.Text.Blank

/-!
Where stores are. A connection string names a server, a file, or a store in memory; reading it opens
nothing but the file.
-/

namespace Analytics

inductive StoreLocation where
  | server (url : String)
  | memory
  | file (path : String)
  deriving DecidableEq, Repr

namespace ServerUrl

def splitAtMark (marks : List Char) (cs : List Char) : List Char × List Char :=
  (cs.takeWhile fun c => !marks.contains c, cs.dropWhile fun c => !marks.contains c)

def splitOn (mark : Char) : List Char → List (List Char)
  | [] => [[]]
  | c :: rest =>
    match splitOn mark rest with
    | [] => [[]]
    | part :: parts => if c = mark then [] :: part :: parts else (c :: part) :: parts

def hexValue? (n : UInt8) : Option UInt8 :=
  if 48 ≤ n ∧ n ≤ 57 then some (n - 48)
  else if 65 ≤ n ∧ n ≤ 70 then some (n - 55)
  else if 97 ≤ n ∧ n ≤ 102 then some (n - 87)
  else none

def unescape : List UInt8 → List UInt8
  | 37 :: a :: b :: rest =>
    match hexValue? a, hexValue? b with
    | some x, some y => (x * 16 + y) :: unescape rest
    | _, _ => 37 :: unescape (a :: b :: rest)
  | n :: rest => n :: unescape rest
  | [] => []
termination_by bytes => bytes.length

/-- How many bytes a character has whose first byte this is, and the range of its second byte. -/
def leadByte? (n : UInt8) : Option (Nat × UInt8 × UInt8) :=
  if n < 0x80 then some (1, 0, 0)
  else if n < 0xC2 then none
  else if n < 0xE0 then some (2, 0x80, 0xBF)
  else if n = 0xE0 then some (3, 0xA0, 0xBF)
  else if n = 0xED then some (3, 0x80, 0x9F)
  else if n < 0xF0 then some (3, 0x80, 0xBF)
  else if n = 0xF0 then some (4, 0x90, 0xBF)
  else if n < 0xF4 then some (4, 0x80, 0xBF)
  else if n = 0xF4 then some (4, 0x80, 0x8F)
  else none

/-- How many of the bytes after the first continue a character, up to the count it needs. -/
def continued (low high : UInt8) : Nat → List UInt8 → Nat
  | 0, _ => 0
  | _, [] => 0
  | needed + 1, n :: rest =>
    if low ≤ n ∧ n ≤ high then continued 0x80 0xBF needed rest + 1 else 0

def textFault? : Nat → Nat → List UInt8 → Option String
  | 0, _, _ => none
  | _, _, [] => none
  | steps + 1, place, n :: rest =>
    match leadByte? n with
    | none => some ("invalid utf-8 sequence of 1 bytes from index " ++ toString place)
    | some (size, low, high) =>
      let found := continued low high (size - 1) rest
      if found = size - 1 then textFault? steps (place + size) (rest.drop (size - 1))
      else if found = rest.length then
        some ("incomplete utf-8 byte sequence from index " ++ toString place)
      else
        some ("invalid utf-8 sequence of " ++ toString (found + 1) ++ " bytes from index "
          ++ toString place)

/-- A part of a connection string with its escapes resolved. -/
def decode (cs : List Char) : Except StoreFault String :=
  let bytes := unescape (String.ofList cs).toUTF8.toList
  match textFault? bytes.length 0 bytes, String.fromUTF8? (ByteArray.mk bytes.toArray) with
  | none, some s => .ok s
  | some fault, _ => .error (.connectionText fault)
  | none, none => .error (.connectionText "invalid utf-8")

def checkOption (name : String) (good : Bool) : Except StoreFault Unit :=
  if good then .ok () else .error (.connectionOption name)

def isPort (s : String) : Bool := s.isEmpty || (Digits.toBounded? wordCount16 s).isSome

def portsAreGood (value : String) : Bool :=
  (splitOn ',' value.toList).all fun part => isPort (String.ofList part)

def isDottedByte (cs : List Char) : Bool :=
  !cs.isEmpty && cs.all Digits.isDigit && cs.length ≤ 3 && Digits.toNat cs < 256 &&
    (cs.length = 1 || cs.head? ≠ some '0')

def isDottedAddress (cs : List Char) : Bool :=
  let parts := splitOn '.' cs
  parts.length = 4 && parts.all isDottedByte

def isHexGroup (cs : List Char) : Bool :=
  !cs.isEmpty && cs.length ≤ 4 &&
    cs.all fun c => Digits.isDigit c || ('a' ≤ c && c ≤ 'f') || ('A' ≤ c && c ≤ 'F')

def groupCount? : List (List Char) → Option Nat
  | [] => some 0
  | [last] =>
    if isHexGroup last then some 1 else if isDottedAddress last then some 2 else none
  | part :: rest => if isHexGroup part then (groupCount? rest).map (· + 1) else none

def splitGap : List Char → Option (List Char × List Char)
  | ':' :: ':' :: rest => some ([], rest)
  | c :: rest => (splitGap rest).map fun (before, after) => (c :: before, after)
  | [] => none

def groupsOf (cs : List Char) : List (List Char) := if cs.isEmpty then [] else splitOn ':' cs

def isGroupedAddress (cs : List Char) : Bool :=
  match splitGap cs with
  | none => groupCount? (groupsOf cs) = some 8
  | some (before, after) =>
    (groupsOf before).all isHexGroup &&
      match groupCount? (groupsOf after) with
      | some n => (groupsOf before).length + n ≤ 7
      | none => false

def isAddress (s : List Char) : Bool := isDottedAddress s || isGroupedAddress s

def checkParameter (name value : String) : Except StoreFault Unit :=
  if name ∈ ["user", "password", "dbname", "options", "application_name", "host"] then .ok ()
  else if name = "sslmode" then checkOption name (value ∈ ["disable", "prefer", "require"])
  else if name = "sslnegotiation" then checkOption name (value ∈ ["postgres", "direct"])
  else if name = "hostaddr" then checkOption name ((splitOn ',' value.toList).all isAddress)
  else if name = "port" then checkOption name (portsAreGood value)
  else if name ∈ ["connect_timeout", "tcp_user_timeout", "keepalives_idle", "keepalives_interval"]
    then checkOption name (Digits.toWord? value).isSome
  else if name = "keepalives" then checkOption name (Digits.toBounded? wordCount64 value).isSome
  else if name = "keepalives_retries" then checkOption name (Digits.toBounded? wordCount32 value).isSome
  else if name = "target_session_attrs" then
    checkOption name (value ∈ ["any", "read-write", "read-only"])
  else if name = "channel_binding" then checkOption name (value ∈ ["disable", "prefer", "require"])
  else if name = "load_balance_hosts" then checkOption name (value ∈ ["disable", "random"])
  else .error (.connectionText ("unknown option \x60" ++ name ++ "\x60"))

def checkHost (cs : List Char) : Except StoreFault Unit :=
  if (unescape (String.ofList cs).toUTF8.toList).head? = some 47 then .ok ()
  else (decode cs).map fun _ => ()

def checkPort (cs : List Char) : Except StoreFault Unit :=
  match decode cs with
  | .error fault => .error fault
  | .ok port => checkOption "port" (portsAreGood port)

def checkHostAndPort (cs : List Char) : Except StoreFault Unit :=
  let parts : Option (List Char × Option (List Char)) := match cs with
    | '[' :: rest =>
      match splitAtMark [']'] rest with
      | (host, ']' :: ':' :: port) => some (host, some port)
      | (host, [']']) => some (host, none)
      | _ => none
    | _ =>
      match splitAtMark [':'] cs with
      | (host, ':' :: port) => some (host, some port)
      | (host, _) => some (host, none)
  match parts with
  | none => .error (.connectionOption "host")
  | some (host, port) =>
    match checkHost host with
    | .error fault => .error fault
    | .ok () =>
      match port with
      | some port => checkPort port
      | none => .ok ()

def checkEach (check : List Char → Except StoreFault Unit) : List (List Char) → Except StoreFault Unit
  | [] => .ok ()
  | part :: rest =>
    match check part with
    | .error fault => .error fault
    | .ok () => checkEach check rest

def checkParameters : Nat → List Char → Except StoreFault Unit
  | 0, _ => .ok ()
  | _, [] => .ok ()
  | steps + 1, cs =>
    match splitAtMark ['='] cs with
    | (name, '=' :: rest) =>
      match decode name with
      | .error fault => .error fault
      | .ok name =>
        let (value, rest) := splitAtMark ['&'] rest
        let checked :=
          if name = "host" then checkHost value
          else match decode value with
            | .error fault => .error fault
            | .ok value => checkParameter name value
        match checked with
        | .error fault => .error fault
        | .ok () => checkParameters steps (rest.drop 1)
    | _ => .error (.connectionText "unterminated parameter")

/-- The text after the scheme: credentials, hosts, a database and options, none of them required. -/
def check (cs : List Char) : Except StoreFault Unit :=
  let (credentials, afterCredentials) := match splitAtMark ['@'] cs with
    | (before, '@' :: rest) => (some before, rest)
    | _ => (none, cs)
  let user : Except StoreFault Unit := match credentials with
    | some before => (decode (splitAtMark [':'] before).1).map fun _ => ()
    | none => .ok ()
  match user with
  | .error fault => .error fault
  | .ok () =>
    let (hosts, afterHosts) := splitAtMark ['/', '?'] afterCredentials
    match checkEach checkHostAndPort (if hosts.isEmpty then [] else splitOn ',' hosts) with
    | .error fault => .error fault
    | .ok () =>
      let (database, options) := match afterHosts with
        | '/' :: rest => splitAtMark ['?'] rest
        | rest => ([], rest)
      match decode database with
      | .error fault => .error fault
      | .ok _ => checkParameters options.length (options.drop 1)

end ServerUrl

namespace StoreLocation

def dialect : StoreLocation → Dialect
  | .server _ => .postgres
  | .memory => .sqlite
  | .file _ => .sqlite

def after? (start s : String) : Option (List Char) :=
  if start.toList.isPrefixOf s.toList then some (s.toList.drop start.length) else none

/-- What a connection string names; blanks around it do not count. -/
def parse (raw : String) : Except StoreFault StoreLocation :=
  let url := Text.trim raw
  match (after? "postgres://" url).orElse fun _ => after? "postgresql://" url with
  | some rest => (ServerUrl.check rest).map fun _ => .server url
  | none =>
    if url = "sqlite::memory:" then .ok .memory
    else match after? "sqlite://" url with
      | some path => .ok (.file (String.ofList path))
      | none => .error .unsupportedScheme

def isFileless (path : String) : Bool :=
  path = "" || path = ":memory:" ||
    match after? "file:" path with
    | none => false
    | some rest =>
      let (name, options) := ServerUrl.splitAtMark ['?'] rest
      name.isEmpty || name = ":memory:".toList ||
        (ServerUrl.splitOn '&' (options.drop 1)).contains "mode=memory".toList

/-- What a connection string names, once the file it names, if any, has been opened. -/
def open? (canOpen : String → Bool) (url : String) : Except StoreFault StoreLocation :=
  match parse url with
  | .error fault => .error fault
  | .ok (.file path) =>
    if isFileless path || canOpen path then .ok (.file path) else .error .cannotOpenFile
  | .ok location => .ok location

end StoreLocation

end Analytics
