import LdapDecoy.Json.Text
import LdapDecoy.Text.Utf8

/-!
# Records

One captured exchange and its line: a JSON object with a fixed order of members, and a newline.
-/
namespace LdapDecoy

structure Record where
  /-- The correlation identifier, empty where there is none. -/
  uniqueId : String
  fullId : String
  /-- The transcript of the request, or a diagnostic. -/
  request : String
  remote : String
  /-- When the record was made, as RFC 3339 writes it. -/
  time : String
  deriving DecidableEq, Repr

namespace Record

/-- Every record names this protocol. -/
def protocol : String := "ldap"

def members (record : Record) : List (String × String) :=
  [("protocol", protocol), ("unique-id", record.uniqueId), ("full-id", record.fullId),
    ("raw-request", record.request), ("remote-address", record.remote), ("timestamp", record.time)]

def object (record : Record) : List Char :=
  Json.object (record.members.map fun (name, value) => Json.member name (Json.text value.toList))

/-- What storage is given. -/
def line (record : Record) : Bytes := Text.Utf8.encode (record.object ++ ['\n'])

end Record

end LdapDecoy
