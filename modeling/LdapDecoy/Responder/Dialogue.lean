import LdapDecoy.Correlation
import LdapDecoy.Responder.Transcript
import LdapDecoy.Act

/-!
# Dialogues

What the responder does about one message, as a tree: its steps in order, with a branch wherever the
connection has an answer to give. Replies come first and records last in every dialogue, so that the client
has its answer whatever storage does.
-/
namespace LdapDecoy.Responder
open Ldap

/-- What the connection does after a message. -/
inductive Flow where
  | proceed
  | close
  deriving DecidableEq, Repr

inductive Dialogue where
  | done (flow : Flow)
  | log (event : Event) (next : Dialogue)
  | reply (reply : Reply) (next : Dialogue)
  /-- Asks whether a request has been abandoned. -/
  | ifAbandoned (id : MessageId) (yes no : Dialogue)
  /-- Abandons a request, if it is in flight. -/
  | abandon (target : MessageId) (found missing : Dialogue)
  | startTls (next : Except TlsFault Unit → Dialogue)
  | record (subject : Option Correlation.Identifier) (transcript : String) (next : Dialogue)

/-- The name of the request to encrypt the connection. -/
def startTlsOid : String := "1.3.6.1.4.1.1466.20037"

/-- The name of the request for the client's own identity. -/
def whoAmIOid : String := "1.3.6.1.4.1.4203.1.11.3"

def defaultBind : String := "Default binding behavior set to return Success"

def notImplemented : String := "Operation not implemented by server"

/-- The name of the entry that every search finds. -/
def entryName (base : String) : String :=
  if base = "" then "cn=ldapcatch" else "cn=ldapcatch, " ++ base

/-- The attributes of that entry, in order. -/
def entryAttributes : List Attribute :=
  [("mail", ["catch@ldap.invalid", "catch@ldap.invalid"]), ("company", ["aaa"]), ("department", ["bbbb"]),
    ("l", ["cccc"]), ("mobile", ["123456789"]), ("telephoneNumber", ["123456789"]), ("cn", ["catch"])].map
    fun (name, values) => ⟨name, values.map Text.bytes⟩

namespace Dialogue

/-- Records a request without an identifier, and goes on. -/
def recorded (transcript : String) : Dialogue := .record none transcript (.done .proceed)

/-- One reply, then the record. -/
def answered (id : MessageId) (response : Response) (transcript : String) : Dialogue :=
  .reply (.of id response) (recorded transcript)

/-- The records of a search: one under the identifier in its base, if there is one, and one under the token. -/
def searched (domain : String) (request : Search) : Dialogue :=
  let transcript := Transcript.search request
  match Correlation.extract domain request.base with
  | some identifier =>
    .log (.tagged .requestInfo "Correlation identifier found in base DN")
      (.record (some identifier) transcript (recorded transcript))
  | none => recorded transcript

def search (domain : String) (id : MessageId) (request : Search) : Dialogue :=
  let finish := .reply (.of id (.searchDone .success)) (searched domain request)
  .ifAbandoned id
    (.log (.tagged .requestInfo "Search abandoned, skipping entry") finish)
    (.reply (.of id (.searchEntry (entryName request.base) entryAttributes)) finish)

def abandoning (target : MessageId) : Dialogue :=
  let finish := recorded (Transcript.abandon target)
  .abandon target
    (.log (.tagged .requestInfo "Abandoned in-flight request") finish)
    (.log (.tagged .requestTrace "Abandon for unknown request") finish)

/-- The reply to a failed upgrade. -/
def upgradeFailed (id : MessageId) (fault : TlsFault) : Reply :=
  .of id (.extended (.of .operationsError ("StartTLS Handshake error : \"" ++ fault.message ++ "\""))
    (some startTlsOid) none)

def upgrade (id : MessageId) : Dialogue :=
  .reply (.of id (.extended .success (some startTlsOid) none)) <| .startTls fun
    | .ok () =>
      .log (.tagged .securityInfo "StartTLS complete") (recorded (Transcript.startTls (.ok ())))
    | .error fault =>
      .log (.tagged .securityError "StartTLS handshake failed") <|
        .reply (upgradeFailed id fault) (recorded (Transcript.startTls (.error fault)))

def extended (id : MessageId) (name : String) (value : Option Bytes) : Dialogue :=
  if name = startTlsOid then upgrade id
  else
    answered id (.extended .success none none)
      (if name = whoAmIOid then Transcript.whoAmI else Transcript.extended name value)

/-- A request without a script of its own is logged, and answered by its kind. -/
def unscripted (id : MessageId) (operation : Operation) (response : Response) : Dialogue :=
  .log (.tagged .requestWarn "Unhandled LDAP operation")
    (answered id response (Transcript.other operation))

/-- The script of an operation. -/
def script (domain : String) (id : MessageId) (operation : Operation) : Dialogue :=
  match operation with
  | .bind dn (.simple password) => answered id (.bind .success none) (Transcript.bind dn password)
  | .bind _ (.sasl _ _) => unscripted id operation (.bind (.of .success defaultBind) none)
  | .unbind => .log (.tagged .requestInfo "LDAP client requested unbind") (.done .close)
  | .search request => search domain id request
  | .modify dn changes => answered id (.modify .success) (Transcript.modify dn changes)
  | .add dn attributes => answered id (.add .success) (Transcript.add dn attributes)
  | .delete dn => answered id (.delete .success) (Transcript.delete dn)
  | .modifyDn _ _ _ => unscripted id operation (.modifyDn (.of .unwillingToPerform notImplemented))
  | .compare dn attr value =>
    answered id (.compare (.of .compareTrue "")) (Transcript.compare dn attr value)
  | .abandon target => abandoning target
  | .extended name value => extended id name value
  | .unexpected _ =>
    unscripted id operation (.extended (.of .unwillingToPerform notImplemented) none none)

/-- What the responder of a root domain does about a message. -/
def plan (domain : String) (message : Message) : Dialogue :=
  .log (.tagged .securityInfo "LDAP client") (script domain message.id message.operation)

end Dialogue

end LdapDecoy.Responder
