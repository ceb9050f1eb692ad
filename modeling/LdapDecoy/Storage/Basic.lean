import LdapDecoy.Fault

/-!
# Storage

Where records go. A record is offered under a key, which is the key of a correlation identifier or the
server's own token; storage takes it or says why it does not.
-/
namespace LdapDecoy

/-- What an offer's key stands for. -/
inductive KeyKind where
  | correlation
  | token
  deriving DecidableEq, Repr

structure Offer where
  kind : KeyKind
  key : String
  data : Bytes
  deriving DecidableEq, Repr

/-- A store with the state `σ`. -/
class Storage (σ : Type) where
  add : Offer → σ → Except StorageFault Unit × σ

end LdapDecoy
