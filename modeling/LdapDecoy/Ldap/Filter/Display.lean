import LdapDecoy.Ldap.Filter.Basic
import LdapDecoy.Text.Quoted

/-!
# Filters in full

A filter written constructor by constructor, every text quoted, so that nothing of it is lost and no
line ends inside it.
-/
namespace LdapDecoy.Ldap

namespace Display

def quoted (s : String) : List Char := (Text.quoted s).toList

def separator : List Char := [',', ' ']

/-- Items between square brackets. -/
def list (items : List (List Char)) : List Char := '[' :: (List.intercalate separator items ++ [']'])

def call (name : String) (arguments : List (List Char)) : List Char :=
  name.toList ++ '(' :: (List.intercalate separator arguments ++ [')'])

/-- A record: name, and each field with its value between braces. -/
def record (name : String) (fields : List (String × List Char)) : List Char :=
  let shown := fields.map fun (field, value) => field.toList ++ ':' :: ' ' :: value
  name.toList ++ ' ' :: '\x7b' :: ' ' :: (List.intercalate separator shown ++ [' ', '\x7d'])

def option : Option String → List Char
  | none => "None".toList
  | some s => call "Some" [quoted s]

def bool : Bool → List Char
  | true => "true".toList
  | false => "false".toList

end Display

open Display

def Substrings.display (parts : Substrings) : List Char :=
  record "LdapSubstringFilter" [("initial", option parts.initial),
    ("any", list (parts.middle.map quoted)), ("final_", option parts.final)]

def RuleMatch.display (rule : RuleMatch) : List Char :=
  record "LdapMatchingRuleAssertion" [("matching_rule", option rule.rule),
    ("type_", option rule.attr), ("match_value", quoted rule.value),
    ("dn_attributes", bool rule.dnAttributes)]

mutual

/-- A filter in full. -/
def Filter.display : Filter → List Char
  | .all filters => call "And" [list (Filter.displays filters)]
  | .any filters => call "Or" [list (Filter.displays filters)]
  | .not filter => call "Not" [filter.display]
  | .equal attr value => call "Equality" [quoted attr, quoted value]
  | .substring attr parts => call "Substring" [quoted attr, parts.display]
  | .greaterOrEqual attr value => call "GreaterOrEqual" [quoted attr, quoted value]
  | .lessOrEqual attr value => call "LessOrEqual" [quoted attr, quoted value]
  | .present attr => call "Present" [quoted attr]
  | .approx attr value => call "Approx" [quoted attr, quoted value]
  | .extensible rule => call "Extensible" [rule.display]

def Filter.displays : List Filter → List (List Char)
  | [] => []
  | filter :: filters => filter.display :: Filter.displays filters

end

/-- A filter in full, as a text. -/
def Filter.inFull (filter : Filter) : String := String.ofList filter.display

end LdapDecoy.Ldap
