import LdapDecoy.Proofs.Ldap.Filter.Display
import LdapDecoy.Proofs.Recorder
import LdapDecoy.Proofs.Responder.Deeds
import Mathlib.Algebra.GroupWithZero.Nat

/-!
# The rows of transcripts

A transcript is written as a column of rows, one for each field, value or change. It is split into these rows at its
newlines if there is none in the texts that stand in it as they were sent; each newline in one of them makes one row
more, which can look like a row of another field.
-/
namespace LdapDecoy

/-! ## Columns -/

namespace Text

/-- What stands in front of the first character of some kind, and what stands behind it. -/
theorem until_unique {c : Char} {s t x y : List Char} (left : c ∉ s) (right : c ∉ t)
    (same : s ++ c :: x = t ++ c :: y) : s = t ∧ x = y := by
  have differs {u : List Char} (none : c ∉ u) : ∀ e ∈ u, (e != c) = true := by
    intro e among
    exact bne_iff_ne.mpr fun same => none (same ▸ among)
  have stops : (c != c) = false := bne_self_eq_false c
  obtain ⟨front, _, back⟩ := span_unique (differs left) (differs right) stops stops same
  exact ⟨front, back⟩

/-- How many newlines there are in a text. -/
def newlines (text : String) : Nat := text.toList.count '\n'

theorem newlines_append (text more : String) : newlines (text ++ more) = newlines text + newlines more := by
  rw [newlines, String.toList_append, List.count_append]
  rfl

theorem newlines_intercalate {separator : String} (single : newlines separator = 0) (texts : List String) :
    newlines (String.intercalate separator texts) = (texts.map newlines).sum := by
  induction texts with
  | nil => rfl
  | cons first more ih =>
      cases more with
      | nil => simp
      | cons second more =>
          rw [String.intercalate_cons_cons, newlines_append, newlines_append, single, ih]
          rfl

theorem sum_newlines_flatMap {α : Type} {f g : α → List String}
    (each : ∀ a, ((f a).map newlines).sum = ((g a).map newlines).sum) (items : List α) :
    ((items.flatMap f).map newlines).sum = ((items.flatMap g).map newlines).sum := by
  induction items with
  | nil => rfl
  | cons a items ih =>
      rw [List.flatMap_cons, List.flatMap_cons, List.map_append, List.map_append, List.sum_append, List.sum_append,
        each, ih]

/-- A number is written without newlines. -/
theorem newlines_toString (n : Int32) : newlines (toString n) = 0 := by
  have digits (m : Nat) : newlines m.repr = 0 := by
    refine List.count_eq_zero.mpr fun among => ?_
    rw [Nat.repr, String.toList_ofList] at among
    exact absurd (Nat.isDigit_of_mem_toDigits (by decide) (by decide) among) (by decide)
  change newlines (toString n.toInt) = 0
  cases n.toInt with
  | ofNat m => exact digits m
  | negSucc m =>
      change newlines ("-" ++ (m + 1).repr) = 0
      rw [newlines_append, digits]
      rfl

/-- Rows one below the other, each with a newline at its end. -/
def column (rows : List String) : String := String.join (rows.map (· ++ "\n"))

theorem column_cons (row : String) (rows : List String) : column (row :: rows) = row ++ "\n" ++ column rows := by
  refine String.toList_injective ?_
  simp [column, String.toList_join]

theorem column_append (rows others : List String) : column (rows ++ others) = column rows ++ column others := by
  refine String.toList_injective ?_
  simp [column, String.toList_join]

theorem column_flatMap {α : Type} (f : α → List String) (items : List α) :
    column (items.flatMap f) = String.join (items.map fun a => column (f a)) := by
  refine String.toList_injective ?_
  simp [column, String.toList_join, List.flatMap_map, List.flatMap_assoc]

/-- There are as many newlines as rows, and those in the rows. -/
theorem newlines_column (rows : List String) : newlines (column rows) = rows.length + (rows.map newlines).sum := by
  induction rows with
  | nil => rfl
  | cons row rows ih =>
      have one : newlines "\n" = 1 := rfl
      rw [column_cons, newlines_append, newlines_append, ih, one, List.map_cons, List.sum_cons, List.length_cons]
      omega

theorem length_splitOn (s : List Char) : (s.splitOn '\n').length = s.count '\n' + 1 := by
  induction s with
  | nil => rfl
  | cons c s ih =>
      rw [List.splitOn_cons_eq_if_modifyHead, List.count_cons]
      split
      · rw [List.length_cons, ih]
      · rw [List.length_modifyHead, ih, Nat.add_zero]

theorem splitOn_column {rows : List String} (single : ∀ row ∈ rows, newlines row = 0) :
    (column rows).toList.splitOn '\n' = rows.map String.toList ++ [[]] := by
  induction rows with
  | nil => rfl
  | cons row rows ih =>
      obtain ⟨first, single⟩ := List.forall_mem_cons.mp single
      have layout : (column (row :: rows)).toList = row.toList ++ '\n' :: (column rows).toList := by
        simp [column_cons]
      rw [layout, List.splitOn_append_cons_self_of_not_mem (List.count_eq_zero.mp first), ih single]
      rfl

/-- A column is split into its rows exactly if they have no newlines. -/
theorem splitOn_column_iff {rows : List String} :
    (column rows).toList.splitOn '\n' = rows.map String.toList ++ [[]] ↔ (rows.map newlines).sum = 0 := by
  constructor
  · intro rowwise
    have counted := length_splitOn (column rows).toList
    have total : (column rows).toList.count '\n' = _ := newlines_column rows
    rw [rowwise, total, List.length_append, List.length_map, List.length_singleton] at counted
    omega
  · intro none
    rw [List.sum_eq_zero_iff_forall_eq_nat, List.forall_mem_map] at none
    exact splitOn_column none

/-- Rows without newlines are read from their column. -/
theorem column_unique {rows others : List String} (single : (rows.map newlines).sum = 0)
    (single' : (others.map newlines).sum = 0) (same : column rows = column others) : rows = others := by
  have split := splitOn_column_iff.mpr single
  rw [same, splitOn_column_iff.mpr single'] at split
  exact (List.map_injective_iff.mpr fun _ _ => String.toList_injective) (List.append_cancel_right split).symm

end Text

open Text (newlines newlines_intercalate)

/-! ## Newlines in filters -/

namespace Ldap

/-- The texts of a part of a filter that stand in its string form as they were sent, escapes apart. -/
def Filter.ownTexts : Filter → List String
  | .equal attr value => [attr, value]
  | .present attr => [attr]
  | .substring attr parts => attr :: (parts.initial.toList ++ parts.middle ++ parts.final.toList)
  | .all _ | .any _ | .not _ | .greaterOrEqual _ _ | .lessOrEqual _ _ | .approx _ _ | .extensible _ => []

/-- The texts of a filter that stand in its string form so. -/
def Filter.texts (filter : Filter) : List String := filter.parts.flatMap ownTexts

theorem newlines_of_clean {s : List Char} (clean : Display.Clean s) : s.count '\n' = 0 :=
  List.count_eq_zero.mpr fun among => absurd (clean _ among) (by decide)

theorem Filter.newlines_inFull (filter : Filter) : newlines filter.inFull = 0 := by
  rw [newlines, Filter.inFull, String.toList_ofList]
  exact newlines_of_clean filter.clean_display

/-- Newlines in a value are not escaped, and none are added. -/
theorem count_escapeValue (value : String) : (escapeValue value).count '\n' = newlines value := by
  have each (c : Char) : (escapeValueChar c).count '\n' = [c].count '\n' := by
    unfold escapeValueChar
    iterate 4
      split
      · rename_i same
        rw [same]
        rfl
    split
    · rename_i null
      have other : c ≠ '\n' := by
        rintro rfl
        cases null
      rw [List.count_singleton, if_neg (by simpa using other)]
      rfl
    · rfl
  rw [escapeValue, newlines]
  induction value.toList with
  | nil => rfl
  | cons c rest ih =>
      rw [List.flatMap_cons, List.count_append, each, ih, ← List.count_append]
      rfl

theorem Substrings.count_pattern (parts : Substrings) :
    parts.pattern.count '\n' =
      ((parts.initial.toList ++ parts.middle ++ parts.final.toList).map newlines).sum := by
  have part (text : Option String) :
      ((text.map escapeValue).getD []).count '\n' = (text.toList.map newlines).sum := by
    cases text with
    | none => rfl
    | some text => simp [count_escapeValue]
  have middle (parts : List String) :
      (parts.flatMap fun part => escapeValue part ++ ['*']).count '\n' = (parts.map newlines).sum := by
    induction parts with
    | nil => rfl
    | cons first more ih => simp [count_escapeValue, ih]
  simp [pattern, part, middle]

theorem count_item (attr : String) (value : List Char) :
    (item attr value).count '\n' = newlines attr + value.count '\n' := by
  simp [item, newlines]

theorem Filter.count_charsOfAll {filters : List Filter}
    (each : ∀ filter ∈ filters, filter.chars.count '\n' = (filter.texts.map newlines).sum) :
    (charsOfAll filters).count '\n' = (((partsOfAll filters).flatMap ownTexts).map newlines).sum := by
  induction filters with
  | nil => rfl
  | cons filter filters ih =>
      obtain ⟨first, each⟩ := List.forall_mem_cons.mp each
      rw [charsOfAll, partsOfAll, List.count_append, first, ih each, List.flatMap_append, List.map_append,
        List.sum_append]
      rfl

theorem Filter.count_chars (filter : Filter) : filter.chars.count '\n' = (filter.texts.map newlines).sum := by
  induction filter with
  | all filters ih | any filters ih =>
      have inside := count_charsOfAll ih
      simpa [chars, texts, parts, ownTexts] using inside
  | not filter ih => simpa [chars, texts, parts, ownTexts] using ih
  | equal attr value => simp [chars, texts, parts, ownTexts, count_item, count_escapeValue]
  | substring attr inside =>
      rw [chars, count_item, inside.count_pattern]
      simp [texts, parts, ownTexts]
  | present attr => simp [chars, texts, parts, ownTexts, count_item]
  | greaterOrEqual attr value | lessOrEqual attr value | approx attr value | extensible rule =>
      simp [chars, texts, parts, ownTexts, newlines_of_clean (clean_display _)]

/-- The newlines in the string form of a filter are those in its texts. -/
theorem Filter.newlines_text (filter : Filter) : newlines filter.text = (filter.texts.map newlines).sum := by
  rw [newlines, Filter.text, String.toList_ofList, count_chars]

end Ldap

/-! ## Transcripts as columns -/

namespace Responder
open Ldap

namespace Transcript

/-- The row of a field. -/
def field (name value : String) : String := name ++ "=" ++ value

/-- The row of a value that is added. -/
def additionRow (name : String) (value : Bytes) : String :=
  "Attribute Name=" ++ name ++ " Attribute Value=" ++ Text.lossy value

/-- The rows of an attribute that is added, one for each value. -/
def additionRows (attr : Attribute) : List String := attr.values.map (additionRow attr.name)

/-- The texts in these rows that were sent. -/
def additionTexts (attr : Attribute) : List String := attr.values.flatMap fun value => [attr.name, Text.lossy value]

/-- The row of a change. -/
def changeRow (change : Change) : String :=
  "Operation=" ++ kind change.kind ++ " Attribute=" ++ change.attr.name ++ " Values=[" ++
    String.intercalate " - " (change.attr.values.map Text.lossy) ++ "]"

/-- The texts in this row that were sent. -/
def changeTexts (change : Change) : List String := change.attr.name :: change.attr.values.map Text.lossy

theorem newlines_field {name : String} (single : newlines name = 0) (value : String) :
    newlines (field name value) = newlines value := by
  rw [field, Text.newlines_append, Text.newlines_append, single, Nat.zero_add]
  exact Nat.zero_add _

theorem line_eq_column (name value : String) : line name value = Text.column [field name value] :=
  String.empty_append.symm

theorem change_eq_column (c : Change) : change c = Text.column [changeRow c] := by
  have ending : "]\n" = "]" ++ "\n" := rfl
  delta change changeRow
  rw [ending, ← String.append_assoc]
  exact String.empty_append.symm

theorem changes_eq_column (changes : List Change) :
    String.join (changes.map change) = Text.column (changes.map changeRow) := by
  rw [List.map_eq_flatMap (f := changeRow), Text.column_flatMap]
  exact congrArg String.join (List.map_congr_left fun c _ => change_eq_column c)

theorem addition_eq_column (attr : Attribute) : addition attr = Text.column (additionRows attr) := by
  rw [Text.column, additionRows, List.map_map]
  rfl

theorem additions_eq_column (attributes : List Attribute) :
    String.join (attributes.map addition) = Text.column (attributes.flatMap additionRows) := by
  rw [Text.column_flatMap]
  exact congrArg String.join (List.map_congr_left fun attr _ => addition_eq_column attr)

/-- Where there is no newline in the names, name and password are read from a transcript. -/
theorem bind_unique {dn dn' password password' : String} (single : newlines dn = 0) (single' : newlines dn' = 0)
    (same : bind dn password = bind dn' password') : dn = dn' ∧ password = password' := by
  have layout (dn password : String) : (bind dn password).toList =
      "Type=Bind\nAuthenticationChoice=simple\nUser=".toList ++
        (dn.toList ++ '\n' :: ("Pass=".toList ++ (password.toList ++ ['\n']))) := by
    simp [bind, line]
  have chars := congrArg String.toList same
  rw [layout, layout] at chars
  have stops : '\n' ∉ dn.toList := List.count_eq_zero.mp single
  have stops' : '\n' ∉ dn'.toList := List.count_eq_zero.mp single'
  obtain ⟨names, behind⟩ := Text.until_unique stops stops' (List.append_cancel_left chars)
  have passwords := List.append_cancel_right (List.append_cancel_left behind)
  exact ⟨String.toList_injective names, String.toList_injective passwords⟩

end Transcript

open Transcript (additionRow additionRows additionTexts additions_eq_column changeRow changeTexts changes_eq_column
  field line_eq_column newlines_field)

namespace Policy

/-- The rows of a transcript: its fields, and the values or changes where there can be many. -/
def rows (upgrade : Except TlsFault Unit) (operation : Operation) : List String :=
  match operation with
  | .bind dn (.simple password) =>
    [field "Type" "Bind", field "AuthenticationChoice" "simple", field "User" dn, field "Pass" password]
  | .search request =>
    [field "Type" "Search", field "BaseDn" request.base, field "Filter" request.filter.inFull,
      field "FilterString" request.filter.text,
      field "Attributes" ("[" ++ String.intercalate " " request.attributes ++ "]"),
      field "TimeLimit" (toString request.timeLimit)]
  | .modify dn changes => field "Type" "Modify" :: field "Entity" dn :: changes.map changeRow
  | .add dn attributes => field "Type" "Add" :: field "Entity" dn :: attributes.flatMap additionRows
  | .delete dn => [field "Type" "Delete", field "Entity" dn]
  | .compare dn attr value =>
    [field "Type" "Compare", field "Entity" dn, field "Attribute name to compare" attr,
      field "Attribute value expected" (Text.lossy value)]
  | .abandon target => [field "Type" "Abandon", field "MessageID" (toString target)]
  | .extended name value =>
    if name = startTlsOid then
      match upgrade with
      | .ok () => [field "Type" "StartTLS", field "Result" "StartTLS OK"]
      | .error fault => [field "Type" "StartTLS", field "Result" ("StartTLS Handshake error " ++ fault.message)]
    else if name = whoAmIOid then [field "Type" "WhoAmI"]
    else [field "Type" "Extended", field "Name" name, field "Value" ((value.map Text.lossy).getD "")]
  | .bind _ (.sasl _ _) | .unbind | .modifyDn _ _ _ | .unexpected _ => [field "Type" operation.name]

/-- The texts in a transcript that are not its own: those of the client that stand in it as they were sent, octets
that are no text replaced, and the message of an upgrade that has failed. -/
def texts (upgrade : Except TlsFault Unit) (operation : Operation) : List String :=
  match operation with
  | .bind dn (.simple password) => [dn, password]
  | .search request => request.base :: (request.filter.texts ++ request.attributes)
  | .modify dn changes => dn :: changes.flatMap changeTexts
  | .add dn attributes => dn :: attributes.flatMap additionTexts
  | .delete dn => [dn]
  | .compare dn attr value => [dn, attr, Text.lossy value]
  | .extended name value =>
    if name = startTlsOid then
      match upgrade with
      | .ok () => []
      | .error fault => [fault.message]
    else if name = whoAmIOid then []
    else [name, (value.map Text.lossy).getD ""]
  | .bind _ (.sasl _ _) | .unbind | .modifyDn _ _ _ | .abandon _ | .unexpected _ => []

/-- A transcript is the column of its rows. -/
theorem transcript_eq_column (upgrade : Except TlsFault Unit) (operation : Operation) :
    transcript upgrade operation = Text.column (rows upgrade operation) := by
  cases operation with
  | bind dn credentials =>
      cases credentials with
      | simple password =>
          simp only [transcript, rows, Transcript.bind, line_eq_column, ← Text.column_append]
          rfl
      | sasl mechanism octets => exact line_eq_column "Type" "Bind"
  | search request =>
      simp only [transcript, rows, Transcript.search, line_eq_column, ← Text.column_append]
      rfl
  | modify dn changes =>
      simp only [transcript, rows, Transcript.modify, line_eq_column, changes_eq_column, ← Text.column_append]
      rfl
  | add dn attributes =>
      simp only [transcript, rows, Transcript.add, line_eq_column, additions_eq_column, ← Text.column_append]
      rfl
  | delete dn =>
      simp only [transcript, rows, Transcript.delete, line_eq_column, ← Text.column_append]
      rfl
  | compare dn attr value =>
      simp only [transcript, rows, Transcript.compare, line_eq_column, ← Text.column_append]
      rfl
  | abandon target =>
      simp only [transcript, rows, Transcript.abandon, line_eq_column, ← Text.column_append]
      rfl
  | extended name value =>
      simp only [transcript, rows]
      repeat' split
      · simp only [Transcript.startTls, line_eq_column, ← Text.column_append]
        rfl
      · simp only [Transcript.startTls, line_eq_column, ← Text.column_append]
        rfl
      · exact line_eq_column "Type" "WhoAmI"
      · simp only [Transcript.extended, line_eq_column, ← Text.column_append]
        rfl
  | unbind | modifyDn _ _ _ | unexpected _ => exact line_eq_column "Type" _

theorem newlines_additionRows (attr : Attribute) :
    ((additionRows attr).map newlines).sum = ((additionTexts attr).map newlines).sum := by
  have rowwise : additionRows attr = attr.values.flatMap fun value => [additionRow attr.name value] :=
    List.map_eq_flatMap
  rw [rowwise, additionTexts]
  refine Text.sum_newlines_flatMap (fun value => ?_) attr.values
  delta additionRow
  simp [newlines]

theorem newlines_changeRow (change : Change) :
    ([changeRow change].map newlines).sum = ((changeTexts change).map newlines).sum := by
  have kind : (Transcript.kind change.kind).toList.count '\n' = 0 := by cases change.kind <;> rfl
  have values : (String.intercalate " - " (change.attr.values.map Text.lossy)).toList.count '\n' = _ :=
    newlines_intercalate rfl _
  delta changeRow
  simp only [changeTexts, newlines, List.map_cons, String.toList_append, List.count_append, kind, values]
  simp

theorem newlines_attributes (attributes : List String) :
    newlines ("[" ++ String.intercalate " " attributes ++ "]") = (attributes.map newlines).sum := by
  rw [Text.newlines_append, Text.newlines_append, newlines_intercalate rfl]
  exact Nat.zero_add _

theorem newlines_name (operation : Operation) : newlines operation.name = 0 := by
  cases operation with
  | unexpected kind => cases kind <;> rfl
  | _ =>
      rw [Operation.name]
      rfl

/-- The newlines in the rows are those in the texts that are shown. -/
theorem newlines_rows (upgrade : Except TlsFault Unit) (operation : Operation) :
    ((rows upgrade operation).map newlines).sum = ((texts upgrade operation).map newlines).sum := by
  have type {kind : String} (single : newlines kind = 0) : newlines (field "Type" kind) = 0 :=
    (newlines_field rfl kind).trans single
  cases operation with
  | bind dn credentials =>
      cases credentials with
      | simple password =>
          have choice : newlines (field "AuthenticationChoice" "simple") = 0 := rfl
          simp (disch := decide) only [rows, texts, List.map_cons, List.sum_cons, type, choice, newlines_field,
            Nat.zero_add, List.map_nil]
      | sasl mechanism octets => exact type (newlines_name _)
  | search request =>
      simp (disch := decide) only [rows, texts, List.map_cons, List.sum_cons, type, newlines_field, Nat.zero_add,
        request.filter.newlines_inFull, request.filter.newlines_text, newlines_attributes, Text.newlines_toString,
        List.map_append, List.sum_append, List.map_nil, List.sum_nil, Nat.add_zero]
  | modify dn changes =>
      have rowwise : changes.map changeRow = changes.flatMap fun change => [changeRow change] := List.map_eq_flatMap
      have further := Text.sum_newlines_flatMap newlines_changeRow changes
      simp (disch := decide) only [rows, texts, List.map_cons, List.sum_cons, type, newlines_field, rowwise, further,
        Nat.zero_add]
  | add dn attributes =>
      have further := Text.sum_newlines_flatMap newlines_additionRows attributes
      simp (disch := decide) only [rows, texts, List.map_cons, List.sum_cons, type, newlines_field, further,
        Nat.zero_add]
  | delete dn =>
      simp (disch := decide) only [rows, texts, List.map_cons, List.sum_cons, type, newlines_field, Nat.zero_add,
        List.map_nil]
  | compare dn attr value =>
      simp (disch := decide) only [rows, texts, List.map_cons, List.sum_cons, type, newlines_field, Nat.zero_add,
        List.map_nil]
  | abandon target =>
      simp (disch := decide) only [rows, texts, List.map_cons, List.sum_cons, type, newlines_field,
        Text.newlines_toString, List.map_nil, List.sum_nil, Nat.zero_add]
  | extended name value =>
      simp only [rows, texts]
      repeat' split
      · rfl
      · rename_i fault
        have result :
            newlines (field "Result" ("StartTLS Handshake error " ++ fault.message)) = newlines fault.message := by
          rw [newlines_field rfl, Text.newlines_append]
          exact Nat.zero_add _
        simp (disch := decide) only [List.map_cons, List.sum_cons, type, result, Nat.zero_add, List.map_nil]
      · rfl
      · simp (disch := decide) only [List.map_cons, List.sum_cons, type, newlines_field, Nat.zero_add, List.map_nil]
  | unbind | modifyDn _ _ _ | unexpected _ => exact type (newlines_name _)

end Policy

/-! ## What is recorded -/

/-- The requests of the records among the offers of some acts, as they are read from the data that storage is
handed. -/
def requests (acts : List Act) : List String :=
  (Act.offers acts).filterMap fun offer => (Record.read? offer.data).map (·.request)

theorem read?_offer (recorder : Recorder) (subject : Option Correlation.Identifier) (request remote : String) :
    (Record.read? (recorder.offer subject request remote).data).map (·.request) = some request := by
  rw [show (recorder.offer subject request remote).data = _ from recorder.offer_holds subject request remote,
    Record.read?_line]
  cases subject <;> rfl

variable {σ σ' τ τ' : Type} [Client σ] [HasOutlet σ] [Storage τ] [Client σ'] [HasOutlet σ'] [Storage τ']

/-- A message that is handled to its end is recorded with its transcript as the request, each time it is offered. -/
theorem requests_of_ok {responder : Responder} {message : Message} {client : σ} {storage : τ} {flow : Flow}
    (ends : (responder.handle message client storage).result = .ok flow) :
    requests (responder.handle message client storage).acts =
      (Policy.offers responder (Client.remote client).text (Client.startTls client).1 message.operation).map
        fun _ => Policy.transcript (Client.startTls client).1 message.operation := by
  have shows := shows_handle responder message client storage (allows_of_ok ends)
  rw [requests, shows.offers, ← List.filterMap_eq_map]
  refine List.filterMap_congr fun offer among => ?_
  obtain ⟨key, rfl⟩ := Policy.exists_of_mem_offers among
  exact read?_offer responder.recorder key _ _

theorem mem_requests_of_ok {responder : Responder} {message : Message} {client : σ} {storage : τ} {flow : Flow}
    (ends : (responder.handle message client storage).result = .ok flow)
    (offered :
      Policy.offers responder (Client.remote client).text (Client.startTls client).1 message.operation ≠ []) :
    Policy.transcript (Client.startTls client).1 message.operation ∈
      requests (responder.handle message client storage).acts := by
  obtain ⟨offer, among⟩ := List.exists_mem_of_ne_nil _ offered
  rw [requests_of_ok ends]
  exact List.mem_map.mpr ⟨offer, among, rfl⟩

/-- Whatever is recorded of a message has its transcript as the request. -/
theorem eq_transcript_of_recorded {responder : Responder} {message : Message} {client : σ} {storage : τ}
    {request : String} (recorded : request ∈ requests (responder.handle message client storage).acts) :
    request = Policy.transcript (Client.startTls client).1 message.operation := by
  cases ends : (responder.handle message client storage).result with
  | error fault =>
      rw [requests, (handle_of_error ends).2] at recorded
      cases recorded
  | ok flow =>
      rw [requests_of_ok ends] at recorded
      obtain ⟨offer, _, same⟩ := List.mem_map.mp recorded
      exact same.symm

/-- A request that is recorded has a row for each field, value or change of its message, and one more for each newline
in the texts that are shown as they were sent. So it is split into these rows at its newlines if and only if there is
none in these texts; and where there is none in the name of a client that binds, name and password are read from what
is recorded. -/
theorem rows_of_recorded (responder responder' : Responder) (message message' : Message) (client : σ) (client' : σ')
    (storage : τ) (storage' : τ') {request : String}
    (recorded : request ∈ requests (responder.handle message client storage).acts) :
    let upgrade := (Client.startTls client).1
    let rows := Policy.rows upgrade message.operation
    let texts := Policy.texts upgrade message.operation
    (request.toList.splitOn '\n').length = rows.length + (texts.map newlines).sum + 1 ∧
    (request.toList.splitOn '\n' = rows.map String.toList ++ [[]] ↔ ∀ text ∈ texts, newlines text = 0) ∧
    ∀ dn dn' password password', message.operation = .bind dn (.simple password) →
      message'.operation = .bind dn' (.simple password') → newlines dn = 0 → newlines dn' = 0 →
      request ∈ requests (responder'.handle message' client' storage').acts →
      dn = dn' ∧ password = password' := by
  intro upgrade rows texts
  have written := eq_transcript_of_recorded recorded
  have column : request = Text.column rows := written.trans (Policy.transcript_eq_column upgrade message.operation)
  have counted : (rows.map newlines).sum = (texts.map newlines).sum :=
    Policy.newlines_rows upgrade message.operation
  refine ⟨?_, ?_, ?_⟩
  · rw [Text.length_splitOn, column, ← counted]
    exact congrArg (· + 1) (Text.newlines_column rows)
  · rw [column, Text.splitOn_column_iff, counted, List.sum_eq_zero_iff_forall_eq_nat, List.forall_mem_map]
  · intro dn dn' password password' binds binds' single single' recorded'
    have written' := eq_transcript_of_recorded recorded'
    rw [binds] at written
    rw [binds'] at written'
    exact Transcript.bind_unique single single' (written.symm.trans written')

/-- A password of two rows, which a name of one row leaves to be told from it. -/
theorem rows_of_recorded_password :
    let responder : Responder := ⟨"t", ⟨"token", "now"⟩⟩
    let other : Responder := ⟨"u", ⟨"another", "later"⟩⟩
    let client := Scripted.fresh ⟨.v4 127 0 0 1, 4000, 0⟩
    let operation : Operation := .bind "cn=admin" (.simple "secret\nUser=cn=guest")
    let request := Transcript.bind "cn=admin" "secret\nUser=cn=guest"
    let recorded := requests (responder.handle ⟨7, operation⟩ client Storage.Memory.empty).acts
    let again := requests (other.handle ⟨8, operation⟩ client Storage.Memory.empty).acts
    (request ∈ recorded ∧ request ∈ again ∧ newlines "cn=admin" = 0) ∧
      (request.toList.splitOn '\n').length = 6 ∧
      request.toList.splitOn '\n' ≠ (Policy.rows (.ok ()) operation).map String.toList ++ [[]] := by
  intro responder other client operation request recorded again
  have ends : (responder.handle ⟨7, operation⟩ client Storage.Memory.empty).result = .ok .proceed := rfl
  have ends' : (other.handle ⟨8, operation⟩ client Storage.Memory.empty).result = .ok .proceed := rfl
  have inRecorded : request ∈ recorded := mem_requests_of_ok ends (List.cons_ne_nil _ _)
  have inAgain : request ∈ again := mem_requests_of_ok ends' (List.cons_ne_nil _ _)
  obtain ⟨length, rowwise, _⟩ :=
    rows_of_recorded responder other ⟨7, operation⟩ ⟨8, operation⟩ client client Storage.Memory.empty
      Storage.Memory.empty inRecorded
  refine ⟨⟨inRecorded, inAgain, rfl⟩, length, ?_⟩
  intro split
  have single : newlines "secret\nUser=cn=guest" = 0 := rowwise.mp split _ (.tail _ (.head _))
  exact absurd single (by decide)

/-- A newline in the name of a client that binds makes a fifth row, which is taken for the one of its password: the
same is recorded of a client with another name and another password. -/
theorem row_forged_by_name :
    let responder : Responder := ⟨"t", ⟨"token", "now"⟩⟩
    let client := Scripted.fresh ⟨.v4 127 0 0 1, 4000, 0⟩
    let forged : Operation := .bind "cn=admin\nPass=guess" (.simple "secret")
    let plain : Operation := .bind "cn=admin" (.simple "guess\nPass=secret")
    let recorded := requests (responder.handle ⟨7, forged⟩ client Storage.Memory.empty).acts
    recorded = ["Type=Bind\nAuthenticationChoice=simple\nUser=cn=admin\nPass=guess\nPass=secret\n"] ∧
      (∀ request ∈ recorded, (request.toList.splitOn '\n').length = 5 + 1) ∧
      requests (responder.handle ⟨7, plain⟩ client Storage.Memory.empty).acts = recorded := by
  intro responder client forged plain recorded
  have ends : (responder.handle ⟨7, forged⟩ client Storage.Memory.empty).result = .ok .proceed := rfl
  have ends' : (responder.handle ⟨7, plain⟩ client Storage.Memory.empty).result = .ok .proceed := rfl
  have written : recorded =
      ["Type=Bind\nAuthenticationChoice=simple\nUser=cn=admin\nPass=guess\nPass=secret\n"] := requests_of_ok ends
  refine ⟨written, ?_, ?_⟩
  · rw [written, List.forall_mem_singleton]
    decide
  · rw [written]
    exact requests_of_ok ends'

end Responder

end LdapDecoy
