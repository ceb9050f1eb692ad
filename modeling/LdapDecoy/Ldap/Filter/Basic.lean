/-!
# Search filters

The conditions of a search, as a client sends them.
-/
namespace LdapDecoy.Ldap

/-- The parts of a value around its wildcards. -/
structure Substrings where
  initial : Option String
  middle : List String
  final : Option String
  deriving DecidableEq, Repr

/-- A match by a rule of its own, on one attribute type or on all. -/
structure RuleMatch where
  rule : Option String
  attr : Option String
  value : String
  /-- Whether the attributes of the distinguished name count too. -/
  dnAttributes : Bool
  deriving DecidableEq, Repr

inductive Filter where
  | all (filters : List Filter)
  | any (filters : List Filter)
  | not (filter : Filter)
  | equal (attr value : String)
  | substring (attr : String) (parts : Substrings)
  | greaterOrEqual (attr value : String)
  | lessOrEqual (attr value : String)
  | present (attr : String)
  | approx (attr value : String)
  | extensible (rule : RuleMatch)

end LdapDecoy.Ldap
