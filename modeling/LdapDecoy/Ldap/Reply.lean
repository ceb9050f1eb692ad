import LdapDecoy.Ldap.Message

/-!
# Replies

What the server sends. Every reply but a search entry is a result under the type that answers its
request.
-/
namespace LdapDecoy.Ldap

/-- The result codes that the server gives. -/
inductive ResultCode where
  | success
  | operationsError
  | compareTrue
  | unwillingToPerform
  deriving DecidableEq, Repr

def ResultCode.number : ResultCode → Nat
  | .success => 0
  | .operationsError => 1
  | .compareTrue => 6
  | .unwillingToPerform => 53

structure Result where
  code : ResultCode
  matchedDn : String
  message : String
  referral : List String
  deriving DecidableEq, Repr

/-- A result that names no entry and refers to no other server. -/
def Result.of (code : ResultCode) (message : String) : Result := ⟨code, "", message, []⟩

def Result.success : Result := .of .success ""

inductive Response where
  | bind (result : Result) (saslCredentials : Option Bytes)
  | searchEntry (dn : String) (attributes : List Attribute)
  | searchDone (result : Result)
  | modify (result : Result)
  | add (result : Result)
  | delete (result : Result)
  | modifyDn (result : Result)
  | compare (result : Result)
  | extended (result : Result) (name : Option String) (value : Option Bytes)
  deriving DecidableEq, Repr

/-- A control of a message: object identifier and value. -/
structure Control where
  oid : String
  value : Option Bytes
  deriving DecidableEq, Repr

/-- A reply to the request with the same id. -/
structure Reply where
  id : MessageId
  response : Response
  controls : List Control
  deriving DecidableEq, Repr

def Reply.of (id : MessageId) (response : Response) : Reply := ⟨id, response, []⟩

/-- The result that a response carries; a search entry has none. -/
def Response.result? : Response → Option Result
  | .bind result _ | .searchDone result | .modify result | .add result | .delete result
  | .modifyDn result | .compare result | .extended result _ _ => some result
  | .searchEntry _ _ => none

end LdapDecoy.Ldap
