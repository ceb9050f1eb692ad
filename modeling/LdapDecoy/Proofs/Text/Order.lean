import LdapDecoy.Proofs.Text.Decoding

/-!
# The order of texts

Texts ascend by their code points exactly as their octets ascend: the lead octet of a character grows with the length
of its sequence, and within one length the octets are the digits of the code point, the most significant first.
-/
namespace LdapDecoy.Text

namespace Utf8

/-- Octets are compared by the first one that differs. -/
theorem cons_lt {m n : Nat} {s t : Bytes} (octet : n < 256) (le : m ≤ n) (behind : m = n → s < t) :
    UInt8.ofNat m :: s < UInt8.ofNat n :: t := by
  apply List.cons_lt_cons_iff.mpr
  rcases Nat.lt_or_eq_of_le le with lt | rfl
  · left
    rw [UInt8.lt_iff_toNat_lt, toNat_octet octet, toNat_octet (Nat.lt_trans lt octet)]
    exact lt
  · exact .inr ⟨rfl, behind rfl⟩

/-- The smaller character is written as the smaller octets, whatever stands behind them. -/
theorem encodeChar_lt {c d : Char} (lt : c.toNat < d.toNat) (s t : Bytes) :
    encodeChar c ++ s < encodeChar d ++ t := by
  have code : d.toNat < 0x110000 := by
    rcases d.valid with low | ⟨_, high⟩
    · exact Nat.lt_trans low (by decide)
    · exact high
  unfold encodeChar
  dsimp only
  -- one case for each pair of lengths; the octets in front are equal only where the lengths are
  repeat' split
  all_goals
    simp only [List.cons_append, List.nil_append]
    repeat refine cons_lt (by omega) (by omega) fun _ => ?_
    omega

theorem encode_lt {s t : List Char} (lt : s < t) : encode s < encode t := by
  induction lt with
  | @nil c rest =>
      rw [encode, encode, List.flatMap_cons, List.flatMap_nil]
      obtain ⟨first, behind, split⟩ := List.exists_cons_of_ne_nil (encodeChar_ne_nil c)
      rw [split]
      exact List.Lex.nil
  | @rel c s d t lt =>
      rw [encode, encode, List.flatMap_cons, List.flatMap_cons]
      exact encodeChar_lt lt _ _
  | @cons c s t lt ih =>
      rw [encode, encode, List.flatMap_cons, List.flatMap_cons]
      exact List.append_left_lt ih

end Utf8

/-- The order of texts is that of their octets. -/
theorem bytes_lt_iff {s t : String} : bytes s < bytes t ↔ s < t := by
  have ascends {s t : String} (lt : s < t) : bytes s < bytes t := Utf8.encode_lt (String.lt_iff.mp lt)
  constructor
  · intro lt
    by_cases above : t < s
    · exact absurd (ascends above) (List.lt_asymm lt)
    by_contra notBelow
    have same : s = t := String.le_antisymm (String.not_lt.mp above) (String.not_lt.mp notBelow)
    rw [same] at lt
    exact List.lt_irrefl _ lt
  · exact ascends

end LdapDecoy.Text
