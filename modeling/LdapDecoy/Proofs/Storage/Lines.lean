import LdapDecoy.Proofs.Storage.History

/-!
# The lines of a journal

How the entries of a journal lie on the lines of its file. An entry is on a line of its own where no newline is in its
value, and where the file did not end within a line when it was opened.
-/
namespace LdapDecoy

/-! ## Lines that are ended -/

namespace Text

/-- What stands behind the last newline. -/
def unfinished (s : Bytes) : Bytes := (s.reverse.takeWhile (· ≠ 0x0A)).reverse

/-- The lines that a newline ends. -/
def finished (s : Bytes) : List Bytes := if unfinished s = [] then lines s else (lines s).dropLast

/-- Every text is lines that are ended, and a line that is not. -/
theorem exists_finished (s : Bytes) : ∃ (done : List Bytes) (tail : Bytes), s = done.flatMap (· ++ [0x0A]) ++ tail ∧
    (∀ line ∈ done, ∀ b ∈ line, b ≠ 0x0A) ∧ ∀ b ∈ tail, b ≠ 0x0A := by
  induction s with
  | nil => exact ⟨[], [], rfl, List.forall_mem_nil _, List.forall_mem_nil _⟩
  | cons b s ih =>
      obtain ⟨done, tail, rfl, single, plain⟩ := ih
      by_cases newline : b = 0x0A
      · refine ⟨[] :: done, tail, ?_, List.forall_mem_cons.mpr ⟨List.forall_mem_nil _, single⟩, plain⟩
        rw [newline, List.flatMap_cons]
        rfl
      · cases done with
        | nil => exact ⟨[], b :: tail, rfl, single, List.forall_mem_cons.mpr ⟨newline, plain⟩⟩
        | cons line done =>
            obtain ⟨first, later⟩ := List.forall_mem_cons.mp single
            refine ⟨(b :: line) :: done, tail, ?_, ?_, plain⟩
            · rw [List.flatMap_cons, List.flatMap_cons]
              rfl
            · exact List.forall_mem_cons.mpr ⟨List.forall_mem_cons.mpr ⟨newline, first⟩, later⟩

section
variable {done : List Bytes} {tail : Bytes}

theorem unfinished_eq (single : ∀ b ∈ tail, b ≠ 0x0A) :
    unfinished (done.flatMap (· ++ [0x0A]) ++ tail) = tail := by
  have kept : ∀ b ∈ tail.reverse, decide (b ≠ 0x0A) = true := by
    intro b among
    exact decide_eq_true (single b (List.mem_reverse.mp among))
  rw [unfinished, List.reverse_append, List.takeWhile_append_of_pos kept]
  rcases List.eq_nil_or_concat done with rfl | ⟨init, last, rfl⟩
  · simp
  · simp [List.concat_eq_append]

theorem lines_unfinished (single : ∀ b ∈ tail, b ≠ 0x0A) : lines tail = if tail = [] then [] else [tail] := by
  induction tail with
  | nil => rfl
  | cons b tail ih =>
      obtain ⟨other, further⟩ := List.forall_mem_cons.mp single
      rw [lines, if_neg other, ih further]
      by_cases last : tail = []
      · rw [if_pos last, last]
        rfl
      · rw [if_neg last]
        rfl

theorem finished_eq (ended : ∀ line ∈ done, ∀ b ∈ line, b ≠ 0x0A) (single : ∀ b ∈ tail, b ≠ 0x0A) :
    finished (done.flatMap (· ++ [0x0A]) ++ tail) = done := by
  rw [finished, unfinished_eq single, lines_flatMap_append ended, lines_unfinished single]
  by_cases last : tail = []
  · rw [if_pos last, if_pos last, List.append_nil]
  · rw [if_neg last, if_neg last, List.dropLast_concat]

end

/-- Of the lines that are written behind a text, the first goes on with its last line. -/
theorem lines_behind (before : Bytes) {first : Bytes} {others : List Bytes}
    (single : ∀ entry ∈ first :: others, ∀ b ∈ entry, b ≠ 0x0A) :
    lines (before ++ (first :: others).flatMap (· ++ [0x0A])) =
      finished before ++ (unfinished before ++ first) :: others := by
  obtain ⟨done, tail, rfl, ended, plain⟩ := exists_finished before
  obtain ⟨alone, further⟩ := List.forall_mem_cons.mp single
  have joined : ∀ b ∈ tail ++ first, b ≠ 0x0A := List.forall_mem_append.mpr ⟨plain, alone⟩
  have written : done.flatMap (· ++ [0x0A]) ++ tail ++ (first :: others).flatMap (· ++ [0x0A]) =
      done.flatMap (· ++ [0x0A]) ++ (tail ++ first ++ 0x0A :: others.flatMap (· ++ [0x0A])) := by
    simp
  rw [unfinished_eq plain, finished_eq ended plain, written, lines_flatMap_append ended, lines_newline joined,
    lines_flatMap further]

/-- Behind a newline goes on what has been counted so far. -/
theorem length_lines_newline (line rest : Bytes) :
    (lines (line ++ 0x0A :: rest)).length = line.count 0x0A + 1 + (lines rest).length := by
  induction line with
  | nil =>
      rw [List.nil_append, lines, if_pos rfl, List.length_cons, List.count_nil]
      omega
  | cons b line ih =>
      by_cases newline : b = 0x0A
      · rw [newline, List.cons_append, lines, if_pos rfl, List.length_cons, ih, List.count_cons_self]
        omega
      · rw [List.cons_append, lines, if_neg newline, List.count_cons_of_ne newline, ← ih]
        -- there is a line to go on with, since a newline follows
        cases further : lines (line ++ 0x0A :: rest) with
        | nil =>
            rw [further, List.length_nil] at ih
            omega
        | cons first more => rfl

/-- There is a line for each entry, and one more for each newline in it. -/
theorem length_lines_flatMap (entries : List Bytes) :
    (lines (entries.flatMap (· ++ [0x0A]))).length = entries.length + entries.flatten.count 0x0A := by
  induction entries with
  | nil => rfl
  | cons entry entries ih =>
      rw [List.flatMap_cons, List.append_assoc, List.singleton_append, length_lines_newline, ih, List.length_cons,
        List.flatten_cons, List.count_append]
      omega

/-- No newline is in any entry, or some are. -/
theorem single_iff_count {entries : List Bytes} :
    (∀ entry ∈ entries, ∀ b ∈ entry, b ≠ 0x0A) ↔ entries.flatten.count 0x0A = 0 := by
  rw [List.count_eq_zero]
  constructor
  · intro single among
    obtain ⟨entry, inEntries, newline⟩ := List.mem_flatten.mp among
    exact single entry inEntries _ newline rfl
  · rintro none entry inEntries b among rfl
    exact none (List.mem_flatten.mpr ⟨entry, inEntries, among⟩)

end Text

namespace Storage.Journal
open Text.Utf8 (encode)

/-! ## Entries on lines -/

/-- The newlines in an entry are those in its value. -/
theorem count_newline_entry (key : String) (value : Bytes) : (entry key value).count 0x0A = value.count 0x0A := by
  have text (s : List Char) : (encode (Json.text s)).count 0x0A = 0 := by
    rw [List.count_eq_zero]
    intro newline
    exact absurd (Json.encode_above (fun _ => Json.text_above) newline) (by decide)
  simp [entry, Json.write, Json.writeFrom, text]

namespace Session

/-- The entries of accepted offers have a value each, and no newlines but those of the values. -/
theorem exists_values {offers : List Offer} {entries : List Bytes}
    (stand : List.Forall₂ (fun offer octets => ∃ value, Carries offer.data value ∧ octets = entry offer.key value)
      offers entries) :
    ∃ values : List Bytes, List.Forall₂ (fun offer value => Carries offer.data value) offers values ∧
      entries.flatten.count 0x0A = values.flatten.count 0x0A := by
  induction stand with
  | nil => exact ⟨[], .nil, rfl⟩
  | cons first _ ih =>
      obtain ⟨value, carries, rfl⟩ := first
      obtain ⟨values, further, same⟩ := ih
      refine ⟨value :: values, .cons carries further, ?_⟩
      rw [List.flatten_cons, List.flatten_cons, List.count_append, List.count_append, count_newline_entry, same]

/-- A file that was empty has a line for each offer that was accepted, and one more for each newline in a value. So each
line by itself is the entry of one accepted offer, and they are in the same order, if and only if there is no newline in
any value. -/
theorem lines_of_accepted {tree : Os.Files} {path : String} (opens : tree.openToAppend path = .ok [])
    (moves : List Move) :
    ∃ session content, open? tree path = .ok session ∧ (session.run moves).2.tree.read path = .ok content ∧
      ∃ values : List Bytes,
        List.Forall₂ (fun offer value => Carries offer.data value) (accepted (session.run moves).1) values ∧
        (Text.lines content).length = (accepted (session.run moves).1).length + values.flatten.count 0x0A ∧
        (List.Forall₂ (fun offer line => ∃ name value, IsEntry offer line name value)
            (accepted (session.run moves).1) (Text.lines content) ↔ 0x0A ∉ values.flatten) := by
  obtain ⟨place, admits⟩ := Os.Files.admits_of_openToAppend opens
  obtain ⟨entries, stand, last⟩ := run_entries admits [] moves
  obtain ⟨values, carried, newlines⟩ := exists_values stand
  have length := Text.length_lines_flatMap entries
  rw [← stand.length_eq, newlines] at length
  refine ⟨holding tree path [], entries.flatMap (· ++ [0x0A]), open?_eq opens, ?_, values, carried, length, ?_⟩
  · rw [last]
    exact admits.read_put _
  rw [← List.count_eq_zero]
  constructor
  · intro alone
    have count := alone.length_eq
    omega
  · intro none
    rw [Text.lines_flatMap (Text.single_iff_count.mpr (newlines.trans none))]
    refine stand.imp ?_
    rintro offer _ ⟨value, carries, rfl⟩
    exact ⟨_, value, entry_isEntry carries⟩

/-- An escaped newline, a string without its second quote, and a list that is written on two lines. -/
theorem lines_of_accepted_pair :
    let tree := Os.Files.flat [("log.jsonl", [])]
    let moves := [.add ⟨.correlation, "key", Text.bytes " \"a\\nb\"\n"⟩, .add ⟨.token, "token", Text.bytes "\"a\\nb"⟩,
      .reopen, .add ⟨.token, "token", Text.bytes "[1,\n2]"⟩]
    tree.openToAppend "log.jsonl" = .ok [] ∧
      ∃ session content, open? tree "log.jsonl" = .ok session ∧
        (session.run moves).2.tree.read "log.jsonl" = .ok content ∧
        ∃ values : List Bytes,
          List.Forall₂ (fun offer value => Carries offer.data value) (accepted (session.run moves).1) values ∧
          (Text.lines content).length = (accepted (session.run moves).1).length + values.flatten.count 0x0A ∧
          (List.Forall₂ (fun offer line => ∃ name value, IsEntry offer line name value)
              (accepted (session.run moves).1) (Text.lines content) ↔ 0x0A ∉ values.flatten) := by
  intro tree moves
  have plain : Os.IsPlain "log.jsonl" := by decide
  have reads : tree.read "log.jsonl" = .ok [] := Os.Files.flat_read plain rfl
  have opens := Os.Files.openToAppend_of_read reads
  exact ⟨opens, lines_of_accepted opens moves⟩

/-- An offer whose value has a newline between two of its tokens is accepted, and takes two lines, of which neither is a
JSON text. -/
theorem lines_of_broken_value :
    let tree := Os.Files.flat [("log.jsonl", [])]
    let offer : Offer := ⟨.correlation, "k", Text.bytes "\x7b\"a\":\n1\x7d"⟩
    ∃ session content, open? tree "log.jsonl" = .ok session ∧ accepted (session.run [.add offer]).1 = [offer] ∧
      (session.run [.add offer]).2.tree.read "log.jsonl" = .ok content ∧
      Text.lines content =
        [Text.bytes "\x7b\"key\":\"k\",\"interaction\":\x7b\"a\":", Text.bytes "1\x7d\x7d"] ∧
      ∀ line ∈ Text.lines content, Json.check line ≠ .ok () := by
  intro tree offer
  have plain : Os.IsPlain "log.jsonl" := by decide
  have reads : tree.read "log.jsonl" = .ok [] := Os.Files.flat_read plain rfl
  have opens := Os.Files.openToAppend_of_read reads
  obtain ⟨place, admits⟩ := Os.Files.admits_of_openToAppend opens
  have isValue : Json.Derives .value offer.data :=
    Json.isValue_iff.mpr ⟨by decide, Json.isTrimmed_enclosed rfl rfl (Text.bytes "\"a\":\n1")⟩
  have ends : ∀ c, ("\x7b\"a\":\n1\x7d".toList).getLast? = some c → Text.isBlank c = false := by
    intro c last
    rw [← Option.some.inj last]
    rfl
  have carries : Carries offer.data offer.data := by
    have between := @Carries.between [] _ [] Json.areBlanks_nil isValue ends (List.forall_mem_nil _)
    rw [List.nil_append, List.append_nil] at between
    exact between
  have accepts : (holding tree "log.jsonl" []).step (.add offer) = _ := step_accepted admits carries
  refine ⟨holding tree "log.jsonl" [], entry offer.key offer.data ++ [0x0A], open?_eq opens, ?_, ?_, by decide,
    by decide⟩
  · rw [run, accepts]
    rfl
  · rw [run, accepts]
    exact admits.read_put _

end Session

end Storage.Journal

end LdapDecoy
