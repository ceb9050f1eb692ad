import LdapDecoy.Ldap.Wire

/-!
# Framing and what arrives later

What stands at the head of some octets does not change when more of them arrive, once there is anything to
say about it.
-/
namespace LdapDecoy

namespace Ber

theorem splitAt?_append {n : Nat} {s taken rest : Bytes} (cut : splitAt? n s = some (taken, rest))
    (more : Bytes) : splitAt? n (s ++ more) = some (taken, rest ++ more) := by
  induction n generalizing s taken with
  | zero =>
      rw [splitAt?] at cut
      cases cut
      rw [splitAt?]
  | succ n ih =>
      cases s with
      | nil =>
          rw [splitAt?] at cut
          cases cut
      | cons b s =>
          simp only [splitAt?, Option.map_eq_some_iff, Prod.mk.injEq] at cut
          obtain ⟨⟨front, back⟩, found, rfl, rfl⟩ := cut
          rw [List.cons_append, splitAt?, ih found]
          rfl

theorem length?_append {s rest : Bytes} {n : Nat} (found : length? s = some (n, rest)) (more : Bytes) :
    length? (s ++ more) = some (n, rest ++ more) := by
  cases s with
  | nil =>
      rw [length?] at found
      cases found
  | cons b s =>
      rw [length?] at found
      rw [List.cons_append, length?]
      by_cases short : b < 0x80
      · rw [if_pos short] at found
        cases found
        rw [if_pos short]
      · rw [if_neg short] at found
        rw [if_neg short]
        simp only [Option.map_eq_some_iff, Prod.mk.injEq] at found
        obtain ⟨⟨octets, behind⟩, cut, rfl, rfl⟩ := found
        rw [splitAt?_append cut]
        rfl

theorem frame?_append {s rest : Bytes} {frame : Frame} (found : frame? s = some (frame, rest))
    (more : Bytes) : frame? (s ++ more) = some (frame, rest ++ more) := by
  cases s with
  | nil =>
      rw [frame?] at found
      cases found
  | cons tag s =>
      rw [frame?] at found
      rw [List.cons_append, frame?]
      rcases measured : length? s with _ | ⟨n, behind⟩
      · rw [measured] at found
        cases found
      · rw [measured] at found
        rw [length?_append measured]
        rcases cut : splitAt? n behind with _ | ⟨content, last⟩
        · simp only [cut] at found
          cases found
        · simp only [cut] at found
          cases found
          simp only [splitAt?_append cut]

theorem element?_append {s rest : Bytes} {element : Element} (found : element? s = some (element, rest))
    (more : Bytes) : element? (s ++ more) = some (element, rest ++ more) := by
  unfold element? at found ⊢
  rcases framed : frame? s with _ | ⟨frame, behind⟩
  · rw [framed] at found
    cases found
  · simp only [framed, Option.map_eq_some_iff, Prod.mk.injEq] at found
    obtain ⟨inside, read, rfl, rfl⟩ := found
    rw [frame?_append framed]
    simp only [read]
    rfl

end Ber

namespace Ldap

/-- The same verdict with more octets behind. -/
def Framing.followedBy (more : Bytes) : Framing → Framing
  | .incomplete => .incomplete
  | .tooLarge => .tooLarge
  | .malformed malformation rest => .malformed malformation (rest ++ more)
  | .message m rest => .message m (rest ++ more)

/-- A verdict stands, whatever arrives later. -/
theorem frame_append {arrived : Bytes} (complete : frame arrived ≠ .incomplete) (more : Bytes) :
    frame (arrived ++ more) = (frame arrived).followedBy more := by
  unfold frame at complete ⊢
  rcases found : Ber.element? arrived with _ | ⟨element, rest⟩
  · rw [found] at complete
    exact absurd rfl complete
  · rw [Ber.element?_append found]
    -- what is consumed does not change, so neither does whether it is too large
    have size : (arrived ++ more).length - (rest ++ more).length = arrived.length - rest.length := by
      rw [List.length_append, List.length_append]
      omega
    simp only [size]
    split
    · rfl
    · cases Decode.message element <;> rfl

end Ldap

end LdapDecoy
