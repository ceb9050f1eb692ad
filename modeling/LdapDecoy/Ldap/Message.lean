import LdapDecoy.Ldap.Filter.Basic
import LdapDecoy.Text.Utf8

/-!
# Messages

What a client can send: requests, and the messages that only a server should send, whose contents are
never looked at.
-/
namespace LdapDecoy.Ldap

/-- Message ids are words of 32 bits with a sign. -/
abbrev MessageId := Int32

inductive Credentials where
  | simple (password : String)
  | sasl (mechanism : String) (credentials : Bytes)
  deriving DecidableEq, Repr

/-- An attribute with its values, which need not be text. -/
structure Attribute where
  name : String
  values : List Bytes
  deriving DecidableEq, Repr

inductive ChangeKind where
  | add
  | delete
  | replace
  deriving DecidableEq, Repr

structure Change where
  kind : ChangeKind
  attr : Attribute
  deriving DecidableEq, Repr

structure Search where
  base : String
  /-- Recorded, never enforced. -/
  timeLimit : Int32
  filter : Filter
  attributes : List String

/-- The messages that a client should not send. -/
inductive Unexpected where
  | bindResponse
  | searchEntry
  | searchDone
  | searchReference
  | modifyResponse
  | addResponse
  | deleteResponse
  | modifyDnResponse
  | compareResponse
  | extendedResponse
  | intermediate
  deriving DecidableEq, Repr

inductive Operation where
  | bind (dn : String) (credentials : Credentials)
  | unbind
  | search (request : Search)
  | modify (dn : String) (changes : List Change)
  | add (dn : String) (attributes : List Attribute)
  | delete (dn : String)
  | modifyDn (dn newRdn : String) (newSuperior : Option String)
  | compare (dn attr : String) (value : Bytes)
  | abandon (target : MessageId)
  | extended (name : String) (value : Option Bytes)
  | unexpected (kind : Unexpected)

structure Message where
  id : MessageId
  operation : Operation

/-- The name of an operation in transcripts. -/
def Operation.name : Operation → String
  | .bind _ _ => "Bind"
  | .unbind => "Unbind"
  | .search _ => "Search"
  | .modify _ _ => "Modify"
  | .add _ _ => "Add"
  | .delete _ => "Delete"
  | .modifyDn _ _ _ => "ModifyDN"
  | .compare _ _ _ => "Compare"
  | .abandon _ => "Abandon"
  | .extended _ _ => "Extended"
  | .unexpected kind =>
    match kind with
    | .bindResponse => "BindResponse"
    | .searchEntry => "SearchResultEntry"
    | .searchDone => "SearchResultDone"
    | .modifyResponse => "ModifyResponse"
    | .addResponse => "AddResponse"
    | .deleteResponse => "DeleteResponse"
    | .modifyDnResponse => "ModifyDNResponse"
    | .compareResponse => "CompareResponse"
    | .extendedResponse => "ExtendedResponse"
    | .searchReference | .intermediate => "Unknown"

end LdapDecoy.Ldap
