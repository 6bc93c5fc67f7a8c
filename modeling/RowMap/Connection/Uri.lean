import RowMap.Connection.Options
import RowMap.Text.Bytes

/-!
# Options as a URI

The scheme is followed by credentials up to an at sign, by hosts with their ports, by the name of
the database after a slash, and by further options after a question mark. All parts are
percent-encoded.
-/

namespace RowMap.Connection

open RowMap.Text (pieces before? cut percentDecoded percentText? ofUtf8?)

/-- The rest of a text after its scheme, if it has one. -/
def afterScheme? (text : List Char) : Option (List Char) :=
  let schemes := ["postgres://".toList, "postgresql://".toList]
  (schemes.find? fun s => s.isPrefixOf text).map fun s => text.drop s.length

/-! ## Parts -/

/-- Sets the credentials and gives the rest. -/
def credentials? (o : Options) (text : List Char) : Option (Options × List Char) :=
  match before? ['@'] text with
  | none => some (o, text)
  | some (part, rest) => do
    let (user, password) := cut [':'] part
    let o := { o with user := some (← percentText? user) }
    match password with
    | [] => return (o, rest.drop 1)
    | _ :: password => return ({ o with password := some (percentDecoded password) }, rest.drop 1)

/-- Adds a host. The path of a local socket need not be a text. -/
def addHost? (o : Options) (host : List Char) : Option Options :=
  let bytes := percentDecoded host
  if bytes.head? = some '/'.toNat.toUInt8 then some (o.addHost (.unix bytes))
  else (ofUtf8? bytes).map fun name => o.addHost (.tcp name)

/-- A host and its port. Between brackets a host may have colons. -/
def hostAndPort? : List Char → Option (List Char × Option (List Char))
  | '[' :: rest =>
    match before? [']'] rest with
    | some (host, [_]) => some (host, none)
    | some (host, _ :: ':' :: port) => some (host, some port)
    | _ => none
  | text =>
    match cut [':'] text with
    | (host, _ :: port) => some (host, some port)
    | (host, []) => some (host, none)

/-- Adds a host with its port, or the usual one. -/
def addServer? (o : Options) (text : List Char) : Option Options := do
  let (host, port) ← hostAndPort? text
  let o ← addHost? o host
  match port with
  | some port => o.set? "port" (← percentText? port)
  | none => return { o with ports := o.ports ++ [Options.defaultPort] }

/-- Sets the option of a key. -/
def setOption? (o : Options) (key value : List Char) : Option Options := do
  match ← percentText? key with
  | "host" => addHost? o value
  | key => o.set? key (← percentText? value)

/-- Sets the options after the question mark, which are at most `fuel`. -/
def query? (o : Options) : Nat → List Char → Option Options
  | 0, _ => some o
  | _, [] => some o
  | fuel + 1, text => do
    let (key, rest) ← before? ['='] text
    let (value, rest) := cut ['&'] (rest.drop 1)
    query? (← setOption? o key value) fuel (rest.drop 1)

/-- The options of a text after its scheme. -/
def Options.ofUri? (text : List Char) : Option Options := do
  let (o, rest) ← credentials? {} text
  let (servers, rest) := cut ['/', '?'] rest
  let o ← if servers.isEmpty then some o else (pieces ',' servers).foldlM addServer? o
  let (database, rest) := match rest with
    | '/' :: rest => cut ['?'] rest
    | rest => ([], rest)
  let o ← if database.isEmpty then some o
    else (percentText? database).map fun name => { o with database := some name }
  query? o rest.length (rest.drop 1)

end RowMap.Connection
