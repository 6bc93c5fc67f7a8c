import RowMap.Connection.Options
import RowMap.Json.Parts
import RowMap.Text.Bytes

/-!
# Connection options as documents
-/

namespace RowMap.Connection

def Host.toJson : Host → Json
  | .tcp name => .ofMembers [("tcp", .string name)]
  | .unix path => .ofMembers [("unix", Json.ofOption .string (Text.ofUtf8? path))]

/-- Times are written in milliseconds, and the bytes of the password in hexadecimal. -/
def Options.toJson (o : Options) : Json := .ofMembers [
  ("user", Json.ofOption .string o.user),
  ("dbname", Json.ofOption .string o.database),
  ("ports", .array (o.ports.map fun port => .int port.toNat)),
  ("password", Json.ofOption (fun bytes => .string (String.ofList (Text.hexOfBytes bytes))) o.password),
  ("hosts", .array (o.hosts.map Host.toJson)),
  ("application_name", Json.ofOption .string o.applicationName),
  ("options", Json.ofOption .string o.commandLine),
  ("connect_timeout_ms", Json.ofOption (fun (s : Nat) => .int (1000 * s)) o.timeout)]

end RowMap.Connection
