import LdapDecoy.Ldap.Filter.Display

/-!
# Filter strings

The string form of RFC 4515: prefix operators and items, each in brackets. Orderings, approximate and
extensible matches are rare in probes and stand in full between the brackets.
-/
namespace LdapDecoy.Ldap

/-- A character of a value; the five that the form gives a meaning to are escaped by their code. -/
def escapeValueChar (c : Char) : List Char :=
  if c = '*' then ['\\', '2', 'a']
  else if c = '(' then ['\\', '2', '8']
  else if c = ')' then ['\\', '2', '9']
  else if c = '\\' then ['\\', '5', 'c']
  else if c.toNat = 0 then ['\\', '0', '0']
  else [c]

def escapeValue (value : String) : List Char := value.toList.flatMap escapeValueChar

def Substrings.pattern (parts : Substrings) : List Char :=
  (parts.initial.map escapeValue).getD [] ++
    '*' :: (parts.middle.flatMap (fun part => escapeValue part ++ ['*']) ++
      (parts.final.map escapeValue).getD [])

/-- An item between brackets: attribute, equals sign, value. -/
def item (attr : String) (value : List Char) : List Char :=
  '(' :: (attr.toList ++ '=' :: (value ++ [')']))

mutual

/-- A filter in its string form. -/
def Filter.chars : Filter → List Char
  | .all filters => '(' :: '&' :: (Filter.charsOfAll filters ++ [')'])
  | .any filters => '(' :: '|' :: (Filter.charsOfAll filters ++ [')'])
  | .not filter => '(' :: '!' :: (filter.chars ++ [')'])
  | .equal attr value => item attr (escapeValue value)
  | .substring attr parts => item attr parts.pattern
  | .present attr => item attr ['*']
  | .greaterOrEqual attr value =>
    '(' :: ((Filter.greaterOrEqual attr value).display ++ [')'])
  | .lessOrEqual attr value => '(' :: ((Filter.lessOrEqual attr value).display ++ [')'])
  | .approx attr value => '(' :: ((Filter.approx attr value).display ++ [')'])
  | .extensible rule => '(' :: ((Filter.extensible rule).display ++ [')'])

def Filter.charsOfAll : List Filter → List Char
  | [] => []
  | filter :: filters => filter.chars ++ Filter.charsOfAll filters

end

/-- A filter in its string form, as a text. -/
def Filter.text (filter : Filter) : String := String.ofList filter.chars

end LdapDecoy.Ldap
