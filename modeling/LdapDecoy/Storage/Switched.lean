import LdapDecoy.Storage.Basic

/-!
# Storage that can be down

A store behind a switch. While it is down every offer is refused, and nothing reaches the store.
-/
namespace LdapDecoy.Storage

structure Switched (σ : Type) where
  inner : σ
  isDown : Bool

instance {σ : Type} [Storage σ] : Storage (Switched σ) where
  add offer switched :=
    if switched.isDown then (.error (.unavailable "down"), switched)
    else
      let (outcome, inner) := Storage.add offer switched.inner
      (outcome, { switched with inner })

end LdapDecoy.Storage
