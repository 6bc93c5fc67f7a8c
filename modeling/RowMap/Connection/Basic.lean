import RowMap.Connection.KeyValue
import RowMap.Connection.Uri
import RowMap.Wire.Server

/-!
# Connecting

A connection string is a URI or a list of keys and values. It must name a host and a user. Nothing
is dialled for one that does not.
-/

namespace RowMap.Connection

inductive Fault
  | unreadable | noHost | noUser
deriving DecidableEq

def Fault.message : Fault → String
  | .unreadable => "invalid connection string: invalid connection string"
  | .noHost => "invalid connection string: no host"
  | .noUser => "invalid connection string: no user"

def Options.ofText? (text : String) : Option Options :=
  match afterScheme? text.toList with
  | some rest => Options.ofUri? rest
  | none => Options.ofKeyValues? text.toList

/-- The options of a text that names a host and a user. -/
def Options.ofText (text : String) : Except Fault Options :=
  match Options.ofText? text with
  | none => .error .unreadable
  | some o =>
    if o.hosts.isEmpty then .error .noHost else if o.user.isNone then .error .noUser else .ok o

def checked (text : String) : Except StoreError Options :=
  match Options.ofText text with
  | .ok o => .ok o
  | .error fault => .error (.other fault.message)

/-- Connects to the backend that dialling reaches, and what is recorded on the way. -/
def connect {β : Type} (text : String) (dial : Options → Except ExchangeError β) :
    Except StoreError (Wire.Wired β) × List Event :=
  match checked text with
  | .error e => (.error e, [.connectSpan])
  | .ok o =>
    match dial o with
    | .error e => (.error (.ofExchange e), [.connectSpan])
    | .ok backend => (.ok ⟨backend⟩, [.connectSpan, .connected (o.user.getD "")])

end RowMap.Connection
