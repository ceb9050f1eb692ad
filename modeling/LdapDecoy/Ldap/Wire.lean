import LdapDecoy.Ldap.Decode

/-!
# Framing

Where messages begin and end in what a client sends. A message that is not complete is waited for; one that
is complete is consumed, also when it is malformed; one that is too large ends the reading.
-/
namespace LdapDecoy.Ldap

/-- What stands at the head of the octets that have arrived. -/
inductive Framing where
  | incomplete
  | tooLarge
  | malformed (malformation : Malformation) (rest : Bytes)
  | message (message : Message) (rest : Bytes)

/-- The most octets that a message can have. -/
def maximalSize : Nat := 32768

def frame (arrived : Bytes) : Framing :=
  match Ber.element? arrived with
  | none => .incomplete
  | some (element, rest) =>
    if maximalSize < arrived.length - rest.length then .tooLarge
    else
      match Decode.message element with
      | .error malformation => .malformed malformation rest
      | .ok message => .message message rest

/-- The octets behind what has been consumed. -/
def Framing.rest? : Framing → Option Bytes
  | .malformed _ rest | .message _ rest => some rest
  | .incomplete | .tooLarge => none

theorem frame_rest_shorter {arrived rest : Bytes} (h : (frame arrived).rest? = some rest) :
    rest.length < arrived.length := by
  unfold frame at h
  split at h
  · contradiction
  · rename_i element behind found
    have shorter : behind.length < arrived.length := by
      unfold Ber.element? at found
      split at found
      · contradiction
      · rename_i frame after framed
        have := Ber.frame?_shorter framed
        simp only [Option.map_eq_some_iff, Prod.mk.injEq] at found
        obtain ⟨_, _, _, rfl⟩ := found
        omega
    split at h
    · contradiction
    · split at h <;> simp only [Framing.rest?, Option.some.injEq] at h <;> exact h ▸ shorter

end LdapDecoy.Ldap
