import LdapDecoy.Ber.Write
import LdapDecoy.Ldap.Reply

/-!
# Replies on the wire

The octets of replies, under the tags of RFC 4511.
-/
namespace LdapDecoy.Ldap
open Ber

/-- The fields of a result; a list of referrals is left out when it is empty. -/
def Result.fields (result : Result) : List Bytes :=
  [Write.enumerated result.code.number, Write.text result.matchedDn, Write.text result.message] ++
    if result.referral.isEmpty then []
    else [Write.element 0xA3 (result.referral.map Write.text).flatten]

def Attribute.encode (attr : Attribute) : Bytes :=
  Write.sequence [Write.text attr.name, Write.set (attr.values.map Write.octets)]

/-- A field of the context class, if it is there. -/
def contextField (number : UInt8) (content : Option Bytes) : List Bytes :=
  (content.map (Write.context number)).toList

def Response.encode : Response → Bytes
  | .bind result credentials => Write.application 1 (result.fields ++ contextField 7 credentials)
  | .searchEntry dn attributes =>
    Write.application 4 [Write.text dn, Write.sequence (attributes.map Attribute.encode)]
  | .searchDone result => Write.application 5 result.fields
  | .modify result => Write.application 7 result.fields
  | .add result => Write.application 9 result.fields
  | .delete result => Write.application 11 result.fields
  | .modifyDn result => Write.application 13 result.fields
  | .compare result => Write.application 15 result.fields
  | .extended result name value =>
    Write.application 24
      (result.fields ++ contextField 10 (name.map Text.bytes) ++ contextField 11 value)

def Control.encode (control : Control) : Bytes :=
  Write.sequence (Write.text control.oid :: (control.value.map Write.octets).toList)

/-- The octets of a reply. -/
def Reply.encode (reply : Reply) : Bytes :=
  Write.sequence ([Write.integer reply.id, reply.response.encode] ++
    if reply.controls.isEmpty then []
    else [Write.element 0xA0 (reply.controls.map Control.encode).flatten])

end LdapDecoy.Ldap
