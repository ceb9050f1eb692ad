import LdapDecoy.Ber.Element
import LdapDecoy.Ldap.Message

/-!
# Messages on the wire

The message that an element is. Elements behind the ones that a message needs do not count. A refusal names
the part of the message that is wrong, the first one in the order of the fields.
-/
namespace LdapDecoy.Ldap
open Ber

/-- What is wrong with an element that should be a message. -/
inductive Malformation where
  | notMessage
  | length
  | id
  | operationClass
  | operationKind
  | bindVersion
  | bind
  | scope
  | aliases
  | search
  | modifyRequest
  | change
  | changeKind
  | addRequest
  | partialAttribute
  | delete
  | modifyDn
  | compare
  | abandon
  | extended
  | result
  | resultCode
  | bindCredentials
  | searchEntry
  | control
  | controlLength
  | pageSize
  | pageCookie
  deriving DecidableEq, Repr

def Malformation.message : Malformation → String
  | .notMessage => "The LDAP msg contains invalid BER"
  | .length => "The LDAP msg has an invalid sequence length"
  | .id => "The LDAP msg has an invalid id"
  | .operationClass => "Invalid operation tag"
  | .operationKind => "Unknown operation type. This may be a bug in ldap3_proto."
  | .bindVersion => "Bind request version is not equal to 3. This is a serious client bug."
  | .bind => "Invalid BER in bind request."
  | .scope => "Invalid search scope value"
  | .aliases => "Invalid deref aliases value"
  | .search => "Invalid BER in search"
  | .modifyRequest => "Invalid BER in modify request"
  | .change => "Invalid BER in modify"
  | .changeKind => "Invalid modify type value"
  | .addRequest => "Invalid BER in add request"
  | .partialAttribute => "Invalid BER in partial attribute"
  | .delete => "Invalid BER in delete request"
  | .modifyDn => "Invalid BER in modify dn request"
  | .compare => "Invalid BER in compare request"
  | .abandon => "Invalid BER in abandon request"
  | .extended => "Invalid BER in extended request"
  | .result => "Invalid BER in result."
  | .resultCode => "Invalid or unknown result code"
  | .bindCredentials => "Invalid BER in bind credentials"
  | .searchEntry => "Invalid BER in search result entry"
  | .control => "Control contains invalid BER"
  | .controlLength => "The control has an invalid sequence length"
  | .pageSize => "Invalid integer in paged search control"
  | .pageCookie => "Missing cookie data in paged search control"

namespace Decode

/-- What a reader finds, or the malformation that its absence is. -/
def require {α : Type} (malformation : Malformation) : Option α → Except Malformation α
  | none => .error malformation
  | some a => .ok a

/-- An integer of at most eight octets; none is a sign. -/
def natural? (content : Bytes) : Option Nat := if content.length ≤ 8 then some (word content) else none

def number? (element : Element) : Option Nat := element.integer? >>= natural?

/-- An integer cut to 32 bits. -/
def int32? (element : Element) : Option Int32 := (number? element).map fun n => (UInt32.ofNat n).toInt32

def enumerated? (element : Element) : Option Nat := element.content? .universal 10 >>= natural?

/-- A truth value: its first octet. -/
def boolOf? : Bytes → Option Bool
  | [] => none
  | b :: _ => some (b ≠ 0)

def bool? (element : Element) : Option Bool := element.content? .universal 1 >>= boolOf?

def text? (element : Element) : Option String := element.octets? >>= Text.ofBytes?

/-- A text under a number of the context class. -/
def contextText? (number : Nat) (element : Element) : Option String :=
  element.content? .context number >>= Text.ofBytes?

/-- Reads every element of a sequence. -/
def listOf? {α : Type} (read : Element → Option α) (element : Element) : Option (List α) := do
  (← element.sequence?).mapM read

/-! ## Filters -/

/-- The two texts that an assertion begins with. -/
def assertion? : List Element → Option (String × String)
  | attr :: value :: _ => do return (← text? attr, ← text? value)
  | _ => none

/-- The parts of a substring filter: an initial part can only be the first, a final part only the last. -/
def substrings? (isFirst : Bool) : List Element → Option Substrings
  | [] => some ⟨none, [], none⟩
  | element :: rest => do
    match contextText? 0 element, contextText? 1 element, contextText? 2 element with
    | some initial, _, _ =>
      if isFirst then return { ← substrings? false rest with initial := some initial } else none
    | _, some part, _ =>
      let more ← substrings? false rest
      return { more with middle := part :: more.middle }
    | _, _, some final => if rest.isEmpty then return ⟨none, [], some final⟩ else none
    | _, _, _ => none

/-- One field of a match by rule. -/
def ruleField? (rule : RuleMatch) : Element → Option RuleMatch
  | .primitive .context 1 content => do return { rule with rule := some (← Text.ofBytes? content) }
  | .primitive .context 2 content => do return { rule with attr := some (← Text.ofBytes? content) }
  | .primitive .context 3 content => do return { rule with value := ← Text.ofBytes? content }
  | .primitive .context 4 content => some { rule with dnAttributes := (boolOf? content).getD false }
  | _ => none

/-- A match by rule, of which at most four fields are read. -/
def ruleMatch? (elements : List Element) : Option RuleMatch :=
  (elements.take 4).foldlM ruleField? ⟨none, none, "", false⟩

mutual

def filter? : Element → Option Filter
  | .constructed .context 0 elements => (filters? elements).map .all
  | .constructed .context 1 elements => (filters? elements).map .any
  | .constructed .context 2 elements => (lastFilter? elements).map .not
  | .constructed .context 3 elements => (assertion? elements).map fun (attr, value) => .equal attr value
  | .constructed .context 4 (attr :: parts :: _) => do
    return .substring (← text? attr) (← substrings? true (← parts.sequence?))
  | .constructed .context 5 elements =>
    (assertion? elements).map fun (attr, value) => .greaterOrEqual attr value
  | .constructed .context 6 elements =>
    (assertion? elements).map fun (attr, value) => .lessOrEqual attr value
  | .primitive .context 7 content => (Text.ofBytes? content).map .present
  | .constructed .context 8 elements => (assertion? elements).map fun (attr, value) => .approx attr value
  | .constructed .context 9 elements => (ruleMatch? elements).map .extensible
  | _ => none

def filters? : List Element → Option (List Filter)
  | [] => some []
  | element :: rest => do return (← filter? element) :: (← filters? rest)

/-- The filter in the last of some elements. -/
def lastFilter? : List Element → Option Filter
  | [] => none
  | [element] => filter? element
  | _ :: rest => lastFilter? rest

end

/-! ## Requests -/

def bind : List Element → Except Malformation Operation
  | version :: dn :: credentials :: _ => do
    let version ← require .bind (number? version)
    if version ≠ 3 then throw .bindVersion
    let dn ← require .bind (text? dn)
    let password ← require .bind (contextText? 0 credentials)
    return .bind dn (.simple password)
  | version :: _ => do
    let version ← require .bind (number? version)
    if version ≠ 3 then throw .bindVersion
    throw .bind
  | [] => .error .bind

def search (elements : List Element) : Except Malformation Operation :=
  match elements with
  | base :: scope :: aliases :: sizeLimit :: timeLimit :: typesOnly :: filter :: attributes :: _ => do
    let base ← require .search (text? base)
    if 3 < (← require .search (enumerated? scope)) then throw .scope
    if 3 < (← require .search (enumerated? aliases)) then throw .aliases
    let _ ← require .search (int32? sizeLimit)
    let timeLimit ← require .search (int32? timeLimit)
    let _ ← require .search (bool? typesOnly)
    let filter ← require .search (filter? filter)
    let attributes ← require .search (listOf? text? attributes)
    return .search ⟨base, timeLimit, filter, attributes⟩
  | base :: scope :: rest => do
    let _ ← require .search (text? base)
    if 3 < (← require .search (enumerated? scope)) then throw .scope
    if let aliases :: _ := rest then
      if 3 < (← require .search (enumerated? aliases)) then throw .aliases
    throw .search
  | _ => .error .search

/-- An attribute: a name, and a set of values. -/
def attribute? (element : Element) : Option Attribute := do
  match ← element.sequence? with
  | name :: values :: _ =>
    return ⟨← text? name, ← (← values.inner? .universal 17).mapM Element.octets?⟩
  | _ => none

def changeKind : Nat → Except Malformation ChangeKind
  | 0 => .ok .add
  | 1 => .ok .delete
  | 2 => .ok .replace
  | _ => .error .changeKind

def change (element : Element) : Except Malformation Change := do
  match ← require .change element.sequence? with
  | kind :: attr :: _ =>
    let kind ← changeKind (← require .change (enumerated? kind))
    return ⟨kind, ← require .change (attribute? attr)⟩
  | _ => throw .change

def modify : List Element → Except Malformation Operation
  | dn :: changes :: _ => do
    let dn ← require .modifyRequest (text? dn)
    let changes ← require .modifyRequest changes.sequence?
    return .modify dn (← changes.mapM change)
  | _ => .error .modifyRequest

def add : List Element → Except Malformation Operation
  | dn :: attributes :: _ => do
    let dn ← require .addRequest (text? dn)
    let attributes ← require .addRequest attributes.sequence?
    return .add dn (← attributes.mapM fun attr => require .partialAttribute (attribute? attr))
  | _ => .error .addRequest

def modifyDn : List Element → Except Malformation Operation
  | dn :: newRdn :: deleteOld :: rest => do
    let dn ← require .modifyDn (text? dn)
    let newRdn ← require .modifyDn (text? newRdn)
    let _ ← require .modifyDn (bool? deleteOld)
    return .modifyDn dn newRdn (rest.head? >>= contextText? 0)
  | _ => .error .modifyDn

def compare : List Element → Except Malformation Operation
  | dn :: assertion :: _ => do
    let dn ← require .compare (text? dn)
    match (← require .compare assertion.sequence?).reverse with
    | value :: attr :: _ =>
      let attr ← require .compare (text? attr)
      return .compare dn attr (← require .compare value.octets?)
    | _ => throw .compare
  | _ => .error .compare

def extended : List Element → Except Malformation Operation
  | name :: rest => do
    let name ← require .extended (contextText? 0 name)
    return .extended name (rest.head? >>= Element.content? .context 1)
  | [] => .error .extended

/-! ## Messages that a client should not send -/

/-- The result codes that responses can have. -/
def knownCodes : List Nat :=
  [0, 1, 2, 3, 4, 5, 6, 7, 8, 10, 11, 12, 13, 14, 16, 17, 18, 19, 20, 21, 32, 33, 34, 36, 48, 49, 50, 51, 52,
    53, 54, 64, 65, 66, 67, 68, 69, 71, 80, 4096]

/-- The elements behind a result. -/
def result : List Element → Except Malformation (List Element)
  | code :: matched :: message :: rest => do
    let code ← require .result (enumerated? code)
    if !knownCodes.contains code then throw .resultCode
    let _ ← require .result (text? matched)
    let _ ← require .result (text? message)
    return rest
  | _ => .error .result

def response (kind : Unexpected) (elements : List Element) : Except Malformation Operation := do
  let _ ← result elements
  return .unexpected kind

/-- Whether an element can stand behind the result of a bind. -/
def isBindField : Element → Bool
  | .primitive cls number _ => number == 3 || (cls == .context && number == 7)
  | .constructed _ number _ => number == 3

def bindResponse (elements : List Element) : Except Malformation Operation := do
  match ← result elements with
  | [] => return .unexpected .bindResponse
  | first :: _ => if isBindField first then return .unexpected .bindResponse else throw .bindCredentials

def searchEntry : List Element → Except Malformation Operation
  | dn :: attributes :: _ => do
    let _ ← require .searchEntry (text? dn)
    let _ ← require .searchEntry (listOf? attribute? attributes)
    return .unexpected .searchEntry
  | _ => .error .searchEntry

/-- The text that any primitive element holds. -/
def anyText? : Element → Option String
  | .primitive _ _ content => Text.ofBytes? content
  | .constructed _ _ _ => none

def reference (elements : List Element) : Except Malformation Operation := do
  let _ ← require .notMessage (elements.mapM anyText?)
  return .unexpected .searchReference

/-! ## Messages -/

def operation : Element → Except Malformation Operation
  | .primitive .application 2 _ => .ok .unbind
  | .primitive .application 10 content =>
    (require .delete (Text.ofBytes? content)).map .delete
  | .primitive .application 16 content =>
    (require .abandon (natural? content)).map fun n => .abandon (UInt32.ofNat n).toInt32
  | .primitive .application _ _ => .error .operationKind
  | .constructed .application number elements =>
    match number with
    | 0 => bind elements
    | 1 => bindResponse elements
    | 2 => .ok .unbind
    | 3 => search elements
    | 4 => searchEntry elements
    | 5 => response .searchDone elements
    | 6 => modify elements
    | 7 => response .modifyResponse elements
    | 8 => add elements
    | 9 => response .addResponse elements
    | 11 => response .deleteResponse elements
    | 12 => modifyDn elements
    | 13 => response .modifyDnResponse elements
    | 14 => compare elements
    | 15 => response .compareResponse elements
    | 19 => reference elements
    | 23 => extended elements
    | 24 => response .extendedResponse elements
    | 25 => .ok (.unexpected .intermediate)
    | _ => .error .operationKind
  | _ => .error .operationClass

/-- The control by which a client asks for results in pages. -/
def pagedOid : String := "1.2.840.113556.1.4.319"

/-- The value of a control for paging: a size and a cookie. -/
def paged (value : Option Element) : Except Malformation Unit := do
  let content ← require .control (value >>= Element.octets?)
  match ← require .control (element? content) with
  | (.constructed _ _ (size :: rest), _) =>
    let _ ← require .pageSize (number? size)
    let _ ← require .pageCookie (rest.head? >>= Element.octets?)
    return ()
  | (.constructed _ _ [], _) => throw .pageSize
  | _ => throw .control

/-- The elements of a sequence whatever its class. -/
def anySequence? : Element → Option (List Element)
  | .constructed _ 16 elements => some elements
  | _ => none

/-- Checks a control. -/
def control (element : Element) : Except Malformation Unit := do
  let elements ← require .control (anySequence? element)
  if elements.isEmpty || 3 < elements.length then throw .controlLength
  let oid ← require .control (elements.head? >>= text?)
  if oid = pagedOid then paged (elements.drop 1).getLast?

/-- Checks the element behind an operation, which holds controls or does not count. -/
def controls : List Element → Except Malformation Unit
  | .constructed .context 0 elements :: _ => elements.forM control
  | _ => .ok ()

def message (element : Element) : Except Malformation Message := do
  match ← require .notMessage (anySequence? element) with
  | id :: op :: rest =>
    if 1 < rest.length then throw .length
    let id ← require .id (int32? id)
    let operation ← operation op
    controls rest
    return ⟨id, operation⟩
  | _ => throw .length

end Decode

end LdapDecoy.Ldap
