import LdapDecoy.Event
import LdapDecoy.Ldap.Reply
import LdapDecoy.Storage.Basic

/-!
# Acts

What the server does that can be seen from outside, in the order in which it does it: it logs events,
writes replies, and offers records to storage.
-/
namespace LdapDecoy

inductive Act where
  | logged (event : Event)
  | replied (reply : Ldap.Reply)
  /-- An offer to storage, and whether storage took it. -/
  | offered (offer : Offer) (outcome : Except StorageFault Unit)

namespace Act

def event? : Act → Option Event
  | .logged event => some event
  | _ => none

def reply? : Act → Option Ldap.Reply
  | .replied reply => some reply
  | _ => none

def offer? : Act → Option Offer
  | .offered offer _ => some offer
  | _ => none

def stored? : Act → Option Offer
  | .offered offer (.ok ()) => some offer
  | _ => none

/-- The events among some acts. -/
def events (acts : List Act) : List Event := acts.filterMap event?

def replies (acts : List Act) : List Ldap.Reply := acts.filterMap reply?

/-- The records offered to storage. -/
def offers (acts : List Act) : List Offer := acts.filterMap offer?

/-- The records that storage took. -/
def stored (acts : List Act) : List Offer := acts.filterMap stored?

end Act

end LdapDecoy
