import LdapDecoy.Text.Utf8

/-!
# Lines

The lines of a text of octets, which end at newlines.
-/
namespace LdapDecoy.Text

/-- The lines of a text; what stands behind the last newline is a line too, unless it is empty. -/
def lines : Bytes → List Bytes
  | [] => []
  | b :: rest =>
    if b = 0x0A then [] :: lines rest
    else
      match lines rest with
      | [] => [[b]]
      | line :: more => (b :: line) :: more

end LdapDecoy.Text
