import RowMap.Connection.Address
import RowMap.Text.Bytes

/-!
# Connection options

Options say where a server is and who connects. An option is set by a key and a value; a later
value replaces an earlier one, but hosts and ports are added to those that are there.
-/

namespace RowMap.Connection

open RowMap.Decimal (word? int64?)
open RowMap.Text (pieces utf8)

inductive Host
  | tcp (name : String)
  /-- The directory of a local socket. -/
  | unix (path : List UInt8)
deriving DecidableEq

structure Options where
  user : Option String := none
  password : Option (List UInt8) := none
  database : Option String := none
  commandLine : Option String := none
  applicationName : Option String := none
  hosts : List Host := []
  ports : List UInt16 := []
  /-- Seconds that connecting may take. -/
  timeout : Option Nat := none
deriving DecidableEq

namespace Options

/-- A host; an absolute path is a local socket. -/
def hostOf (name : String) : Host :=
  if name.toList.head? = some '/' then .unix (utf8 name) else .tcp name

def addHost (o : Options) (host : Host) : Options := { o with hosts := o.hosts ++ [host] }

/-! ## Values of options -/

def defaultPort : UInt16 := 5432

/-- A port; an empty text is the usual one. -/
def port? (text : List Char) : Option UInt16 :=
  if text.isEmpty then some defaultPort else (word? 16 text).map Nat.toUInt16

/-- The words that an option takes as its value. -/
def words? : String → Option (List String)
  | "sslmode" => some ["disable", "prefer", "require"]
  | "sslnegotiation" => some ["postgres", "direct"]
  | "target_session_attrs" => some ["any", "read-write", "read-only"]
  | "channel_binding" => some ["disable", "prefer", "require"]
  | "load_balance_hosts" => some ["disable", "random"]
  | _ => none

/-- An option that is checked and makes no difference here is not kept. -/
def checked (o : Options) (ok : Bool) : Option Options := if ok then some o else none

/-- Sets an option by its key, if the key is known and the value is one of its values. -/
def set? (o : Options) (key value : String) : Option Options :=
  let text := value.toList
  match key with
  | "user" => some { o with user := some value }
  | "password" => some { o with password := some (utf8 value) }
  | "dbname" => some { o with database := some value }
  | "options" => some { o with commandLine := some value }
  | "application_name" => some { o with applicationName := some value }
  | "host" =>
    some { o with hosts := o.hosts ++ (pieces ',' text).map fun name => hostOf (String.ofList name) }
  | "hostaddr" => o.checked ((pieces ',' text).all isAddress)
  | "port" => ((pieces ',' text).mapM port?).map fun ports => { o with ports := o.ports ++ ports }
  | "connect_timeout" =>
    (int64? text).map fun i => if 0 < i then { o with timeout := some i.toNat } else o
  | "tcp_user_timeout" | "keepalives_idle" | "keepalives_interval" => o.checked (int64? text).isSome
  | "keepalives" => o.checked (word? 64 text).isSome
  | "keepalives_retries" => o.checked (word? 32 text).isSome
  | key => (words? key).bind fun words => o.checked (words.contains value)

end Options

end RowMap.Connection
