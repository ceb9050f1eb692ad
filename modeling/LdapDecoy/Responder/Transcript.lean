import LdapDecoy.Fault
import LdapDecoy.Ldap.Filter.Text
import LdapDecoy.Ldap.Message

/-!
# Transcripts

How a request is written into its record: a line for each field, and for each value or change where there
can be many. Octets are shown as the text they spell.
-/
namespace LdapDecoy.Responder.Transcript
open Ldap

/-- A field on a line of its own. -/
def line (name value : String) : String := name ++ "=" ++ value ++ "\n"

def bind (dn password : String) : String :=
  line "Type" "Bind" ++ line "AuthenticationChoice" "simple" ++ line "User" dn ++ line "Pass" password

def search (request : Search) : String :=
  line "Type" "Search" ++ line "BaseDn" request.base ++ line "Filter" request.filter.inFull ++
    line "FilterString" request.filter.text ++
    line "Attributes" ("[" ++ String.intercalate " " request.attributes ++ "]") ++
    line "TimeLimit" (toString request.timeLimit)

def abandon (target : MessageId) : String :=
  line "Type" "Abandon" ++ line "MessageID" (toString target)

def compare (dn attr : String) (value : Bytes) : String :=
  line "Type" "Compare" ++ line "Entity" dn ++ line "Attribute name to compare" attr ++
    line "Attribute value expected" (Text.lossy value)

/-- The lines of an attribute that is added, one for each value. -/
def addition (attr : Attribute) : String :=
  String.join (attr.values.map fun value =>
    "Attribute Name=" ++ attr.name ++ " Attribute Value=" ++ Text.lossy value ++ "\n")

def add (dn : String) (attributes : List Attribute) : String :=
  line "Type" "Add" ++ line "Entity" dn ++ String.join (attributes.map addition)

def delete (dn : String) : String := line "Type" "Delete" ++ line "Entity" dn

def kind : ChangeKind → String
  | .add => "Add"
  | .delete => "Delete"
  | .replace => "Replace"

/-- The line of a change. -/
def change (c : Change) : String :=
  "Operation=" ++ kind c.kind ++ " Attribute=" ++ c.attr.name ++ " Values=[" ++
    String.intercalate " - " (c.attr.values.map Text.lossy) ++ "]\n"

def modify (dn : String) (changes : List Change) : String :=
  line "Type" "Modify" ++ line "Entity" dn ++ String.join (changes.map change)

def whoAmI : String := line "Type" "WhoAmI"

def extended (name : String) (value : Option Bytes) : String :=
  line "Type" "Extended" ++ line "Name" name ++ line "Value" ((value.map Text.lossy).getD "")

def startTls : Except TlsFault Unit → String
  | .ok () => line "Type" "StartTLS" ++ line "Result" "StartTLS OK"
  | .error fault => line "Type" "StartTLS" ++ line "Result" ("StartTLS Handshake error " ++ fault.message)

/-- A request of which only the kind is kept. -/
def other (operation : Operation) : String := line "Type" operation.name

end LdapDecoy.Responder.Transcript
