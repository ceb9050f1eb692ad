import LdapDecoy.Proofs.Server.Transport
import Mathlib.Data.List.Induction

/-!
# Abandoned requests

Which requests a connection has in flight and which of them are abandoned can be read off its history alone: what
has been begun and finished, and what has been handled, in order. A session begins a request right in front of its
handling and finishes it right behind, so that nothing is in flight between two messages and no request to abandon
ever finds a search to take the entry from.
-/
namespace LdapDecoy.Server.Connection
open Ldap Responder

variable {τ : Type} [Storage τ]

/-- What can be done with a connection between two of its reads. -/
inductive Move where
  | begin (id : MessageId)
  | finish (id : MessageId)
  | handle (message : Message)

namespace Move

/-- The connection and the storage behind a move. -/
def make (responder : Responder) (before : Connection × τ) : Move → Connection × τ
  | .begin id => (before.1.begin id, before.2)
  | .finish id => (before.1.finish id, before.2)
  | .handle message =>
    let outcome := responder.handle message before.1 before.2
    (outcome.client, outcome.storage)

/-- A connection and the storage behind a history of moves. -/
def makeAll (responder : Responder) (history : List Move) (connection : Connection) (storage : τ) :
    Connection × τ :=
  history.foldl (make responder) (connection, storage)

/-- Whether a request has been begun and not finished since its last begin, behind which came `since`. -/
structure Open (history : List Move) (id : MessageId) (since : List Move) : Prop where
  begun : ∃ before, history = before ++ .begin id :: since
  last : .begin id ∉ since
  unfinished : .finish id ∉ since

/-- Whether a request to abandon another one has been handled. -/
def Abandons (moves : List Move) (id : MessageId) : Prop := ∃ asking, .handle ⟨asking, .abandon id⟩ ∈ moves

theorem not_open_nil (id : MessageId) (since : List Move) : ¬ Open [] id since := by
  rintro ⟨⟨before, empty⟩, _, _⟩
  exact absurd empty.symm (List.append_ne_nil_of_right_ne_nil before (List.cons_ne_nil _ _))

/-- A request is open behind a move if the move begins it, or if it was open before and the move does not finish
it. -/
theorem open_concat {history since : List Move} {move : Move} {id : MessageId} :
    Open (history ++ [move]) id since ↔
      (move = .begin id ∧ since = []) ∨
      (move ≠ .begin id ∧ move ≠ .finish id ∧ ∃ earlier, since = earlier ++ [move] ∧ Open history id earlier) := by
  constructor
  · rintro ⟨⟨before, split⟩, last, unfinished⟩
    rcases List.eq_nil_or_concat since with rfl | ⟨earlier, final, rfl⟩
    · obtain ⟨_, here⟩ := List.append_inj' split rfl
      exact .inl ⟨(List.cons.inj here).1, rfl⟩
    · rw [List.concat_eq_append, ← List.cons_append, ← List.append_assoc] at split
      rw [List.concat_eq_append] at last unfinished ⊢
      obtain ⟨front, same⟩ := List.append_inj' split rfl
      obtain rfl : move = final := (List.cons.inj same).1
      simp only [List.mem_append, List.mem_singleton, not_or] at last unfinished
      exact .inr ⟨Ne.symm last.2, Ne.symm unfinished.2, earlier, rfl, ⟨before, front⟩, last.1, unfinished.1⟩
  · rintro (⟨rfl, rfl⟩ | ⟨notBegin, notFinish, earlier, rfl, ⟨before, rfl⟩, last, unfinished⟩)
    · exact ⟨⟨history, rfl⟩, List.not_mem_nil, List.not_mem_nil⟩
    · refine ⟨⟨before, ?_⟩, ?_, ?_⟩
      · rw [List.append_assoc, List.cons_append]
      · simp only [List.mem_append, List.mem_singleton, not_or]
        exact ⟨last, Ne.symm notBegin⟩
      · simp only [List.mem_append, List.mem_singleton, not_or]
        exact ⟨unfinished, Ne.symm notFinish⟩

/-- Where a request stands: it is open, and its flag says whether it has been abandoned since its last begin. -/
def Stands (history : List Move) (id : MessageId) (flag : Bool) : Prop :=
  ∃ since, Open history id since ∧ (flag = true ↔ Abandons since id)

theorem exists_stands_iff {history : List Move} {id : MessageId} :
    (∃ flag, Stands history id flag) ↔ ∃ since, Open history id since := by
  constructor
  · rintro ⟨_, since, isOpen, _⟩
    exact ⟨since, isOpen⟩
  · rintro ⟨since, isOpen⟩
    by_cases abandons : Abandons since id
    · exact ⟨true, since, isOpen, iff_of_true rfl abandons⟩
    · exact ⟨false, since, isOpen, iff_of_false Bool.false_ne_true abandons⟩

theorem abandons_concat {moves : List Move} {move : Move} {id : MessageId} :
    Abandons (moves ++ [move]) id ↔ Abandons moves id ∨ ∃ asking, move = .handle ⟨asking, .abandon id⟩ := by
  simp only [Abandons, List.mem_append, List.mem_singleton, exists_or, eq_comm]

section
variable {history : List Move} {id : MessageId} {flag : Bool}

theorem stands_begin : Stands (history ++ [.begin id]) id flag ↔ flag = false := by
  constructor
  · rintro ⟨since, isOpen, flagged⟩
    rcases open_concat.mp isOpen with ⟨_, rfl⟩ | ⟨notBegin, _⟩
    · rw [← Bool.not_eq_true, flagged]
      rintro ⟨asking, among⟩
      cases among
    · exact absurd rfl notBegin
  · rintro rfl
    refine ⟨[], open_concat.mpr (.inl ⟨rfl, rfl⟩), iff_of_false Bool.false_ne_true ?_⟩
    rintro ⟨asking, among⟩
    cases among

theorem not_stands_finish : ¬ Stands (history ++ [.finish id]) id flag := by
  rintro ⟨since, isOpen, _⟩
  rcases open_concat.mp isOpen with ⟨isBegin, _⟩ | ⟨_, notFinish, _⟩
  · cases isBegin
  · exact absurd rfl notFinish

theorem stands_abandon {asking : MessageId} :
    Stands (history ++ [.handle ⟨asking, .abandon id⟩]) id flag ↔
      (∃ before, Stands history id before) ∧ flag = true := by
  rw [exists_stands_iff]
  constructor
  · rintro ⟨since, isOpen, flagged⟩
    rcases open_concat.mp isOpen with ⟨isBegin, _⟩ | ⟨_, _, earlier, rfl, before⟩
    · cases isBegin
    · exact ⟨⟨earlier, before⟩, flagged.mpr (abandons_concat.mpr (.inr ⟨asking, rfl⟩))⟩
  · rintro ⟨⟨earlier, before⟩, rfl⟩
    refine ⟨_, open_concat.mpr (.inr ⟨nofun, nofun, earlier, rfl, before⟩), ?_⟩
    exact iff_of_true rfl (abandons_concat.mpr (.inr ⟨asking, rfl⟩))

/-- A move that has nothing to do with a request leaves it where it stands. -/
theorem stands_of_other {move : Move} (notBegin : move ≠ .begin id) (notFinish : move ≠ .finish id)
    (notAbandon : ∀ asking, move ≠ .handle ⟨asking, .abandon id⟩) :
    Stands (history ++ [move]) id flag ↔ Stands history id flag := by
  have same (earlier : List Move) : Abandons (earlier ++ [move]) id ↔ Abandons earlier id := by
    rw [abandons_concat, or_iff_left]
    rintro ⟨asking, rfl⟩
    exact notAbandon asking rfl
  constructor
  · rintro ⟨since, isOpen, flagged⟩
    rcases open_concat.mp isOpen with ⟨isBegin, _⟩ | ⟨_, _, earlier, rfl, before⟩
    · exact absurd isBegin notBegin
    · exact ⟨earlier, before, flagged.trans (same earlier)⟩
  · rintro ⟨earlier, before, flagged⟩
    exact ⟨_, open_concat.mpr (.inr ⟨notBegin, notFinish, earlier, rfl, before⟩),
      flagged.trans (same earlier).symm⟩

end

/-- The flag of a request behind a move, if every request stood as the table said before it. -/
theorem flag?_make {history : List Move} {responder : Responder} {before : Connection × τ}
    (stands : ∀ id flag, before.1.inFlight.flag? id = some flag ↔ Stands history id flag) (move : Move)
    (id : MessageId) (flag : Bool) :
    (make responder before move).1.inFlight.flag? id = some flag ↔ Stands (history ++ [move]) id flag := by
  cases move with
  | begin other =>
      change (before.1.inFlight.begin other).flag? id = _ ↔ _
      rw [InFlight.flag?_begin]
      by_cases same : id = other
      · rw [if_pos same, same, stands_begin, Option.some.injEq, eq_comm]
      · have apart : Move.begin other ≠ .begin id := fun equal => same (Move.begin.inj equal).symm
        rw [if_neg same]
        exact (stands id flag).trans (Iff.symm (stands_of_other apart nofun nofun))
  | finish other =>
      change (before.1.inFlight.finish other).flag? id = _ ↔ _
      rw [InFlight.flag?_finish]
      by_cases same : id = other
      · rw [if_pos same, same]
        exact iff_of_false nofun not_stands_finish
      · have apart : Move.finish other ≠ .finish id := fun equal => same (Move.finish.inj equal).symm
        rw [if_neg same]
        exact (stands id flag).trans (Iff.symm (stands_of_other nofun apart nofun))
  | handle message =>
      change (responder.handle message before.1 before.2).client.inFlight.flag? id = _ ↔ _
      by_cases abandons : ∃ target, message.operation = .abandon target
      · obtain ⟨asking, _⟩ := message
        obtain ⟨target, rfl⟩ := abandons
        rw [handle_abandon, InFlight.flag?_abandon]
        by_cases same : id = target
        · rw [if_pos same, ← same, stands_abandon, Option.map_eq_some_iff]
          simp only [stands, exists_and_right, eq_comm]
        · have apart (asking' : MessageId) :
              Move.handle ⟨asking, .abandon target⟩ ≠ .handle ⟨asking', .abandon id⟩ := by
            intro equal
            cases equal
            exact same rfl
          rw [if_neg same]
          exact (stands id flag).trans (Iff.symm (stands_of_other nofun nofun apart))
      · have other := not_exists.mp abandons
        have apart (asking : MessageId) : Move.handle message ≠ .handle ⟨asking, .abandon id⟩ := by
          intro equal
          cases equal
          exact other id rfl
        rw [handle_inFlight responder other]
        exact (stands id flag).trans (Iff.symm (stands_of_other nofun nofun apart))

/-- The table of a connection says where each request stands after the connection's history. -/
theorem flag?_makeAll (responder : Responder) {connection : Connection} (idle : connection.inFlight = .none)
    (storage : τ) (history : List Move) (id : MessageId) (flag : Bool) :
    (makeAll responder history connection storage).1.inFlight.flag? id = some flag ↔
      Stands history id flag := by
  induction history using List.reverseRecOn generalizing id flag with
  | nil =>
      change connection.inFlight.flag? id = some flag ↔ _
      rw [idle]
      refine iff_of_false nofun ?_
      rintro ⟨since, isOpen, _⟩
      exact not_open_nil id since isOpen
  | append_singleton history move ih =>
      rw [makeAll, List.foldl_append]
      exact flag?_make ih move id flag

end Move

/-! ## Searches -/

/-- A search whose replies can be written gives its entry, unless it has been abandoned, and then that it is done. -/
theorem handle_search (responder : Responder) (id : MessageId) (request : Search) (connection : Connection)
    (storage : τ) :
    let outcome := responder.handle ⟨id, .search request⟩ connection storage
    let replies := Policy.searchReplies (Client.isAbandoned id connection) id request
    connection.outlet.Allows replies.length →
      outcome.result = .ok .proceed ∧ Act.replies outcome.acts = replies := by
  intro outcome replies allows
  have shows := shows_handle responder ⟨id, .search request⟩ connection storage allows
  exact ⟨shows.result, shows.replies⟩

/-- What a connection's history decides, at every point of it. A request is in flight if it was begun and not finished
since its last begin; it is abandoned if, besides, a request to abandon it has been handled since then. A search
that is handled now gives its entry exactly if its id is not abandoned, and is done in both cases; and no message
but a request to abandon changes the table. -/
theorem abandonment_of_history (responder : Responder) {connection : Connection}
    (idle : connection.inFlight = .none) (storage : τ) (history : List Move) (id : MessageId) :
    let now := Move.makeAll responder history connection storage
    ((Client.abandon id now.1).1 = true ↔ ∃ since, Move.Open history id since) ∧
    (Client.isAbandoned id now.1 = true ↔ ∃ since, Move.Open history id since ∧ Move.Abandons since id) ∧
    (∀ request,
      let outcome := responder.handle ⟨id, .search request⟩ now.1 now.2
      let entry : Reply := .of id (.searchEntry (entryName request.base) entryAttributes)
      let done : Reply := .of id (.searchDone .success)
      let replies := if Client.isAbandoned id now.1 then [done] else [entry, done]
      now.1.outlet.Allows replies.length →
        outcome.result = .ok .proceed ∧ Act.replies outcome.acts = replies) ∧
    ∀ message, (∀ target, message.operation ≠ .abandon target) →
      (responder.handle message now.1 now.2).client.inFlight = now.1.inFlight := by
  intro now
  have stands := Move.flag?_makeAll responder idle storage history id
  refine ⟨?_, ?_, ?_, ?_⟩
  · change now.1.inFlight.contains id = true ↔ _
    rw [InFlight.contains_eq, Option.isSome_iff_exists, ← Move.exists_stands_iff]
    exact exists_congr stands
  · change now.1.inFlight.isAbandoned id = true ↔ _
    rw [InFlight.isAbandoned_eq, Option.getD_eq_iff, stands]
    simp only [Move.Stands, true_iff, Bool.false_eq_true, and_false, or_false]
  · intro request
    exact handle_search responder id request now.1 now.2
  · intro message other
    exact handle_inFlight responder other now.1 now.2

/-- Two requests that are begun; the first abandons itself, and the second is abandoned, finished and begun again. -/
theorem abandonment_of_reused_id :
    let responder : Responder := ⟨"t", ⟨"token", "now"⟩⟩
    let connection := fresh ⟨.v4 127 0 0 1, 4000, 0⟩ ⟨none, ⟨.other [] [], []⟩, [], .other [] []⟩ ⟨[], [], []⟩ []
    let history : List Move := [.begin 4, .begin 5, .handle ⟨4, .abandon 4⟩, .handle ⟨4, .abandon 5⟩,
      .handle ⟨4, .abandon 6⟩, .finish 5, .begin 5]
    let now := Move.makeAll responder history connection Storage.Memory.empty
    let search (id : MessageId) : Message := ⟨id, .search ⟨"", 0, .present "cn", []⟩⟩
    let replies (id : MessageId) := Act.replies (responder.handle (search id) now.1 now.2).acts
    connection.inFlight = .none ∧
      Client.isAbandoned 4 now.1 = true ∧ (replies 4).length = 1 ∧
      Client.isAbandoned 5 now.1 = false ∧ (replies 5).length = 2 ∧
      (Client.abandon 5 now.1).1 = true ∧ (Client.abandon 6 now.1).1 = false := by
  intro responder connection history now search replies
  have idle : connection.inFlight = .none := rfl
  obtain ⟨_, abandoned, searched, _⟩ := abandonment_of_history responder idle Storage.Memory.empty history 4
  obtain ⟨inFlight, notAbandoned, searched', _⟩ :=
    abandonment_of_history responder idle Storage.Memory.empty history 5
  obtain ⟨unknown, _⟩ := abandonment_of_history responder idle Storage.Memory.empty history 6
  have first : Client.isAbandoned 4 now.1 = true := by
    refine abandoned.mpr ⟨history.drop 1, ⟨⟨[], rfl⟩, ?_, ?_⟩, 4, .tail _ (.head _)⟩ <;> simp [history]
  have again : Move.Open history 5 [] := ⟨⟨history.take 6, rfl⟩, List.not_mem_nil, List.not_mem_nil⟩
  have second : Client.isAbandoned 5 now.1 = false := by decide +kernel
  have flagged := searched ⟨"", 0, .present "cn", []⟩ trivial
  have unflagged := searched' ⟨"", 0, .present "cn", []⟩ trivial
  rw [first] at flagged
  rw [second] at unflagged
  refine ⟨idle, first, congrArg List.length flagged.2, second, congrArg List.length unflagged.2,
    inFlight.mpr ⟨[], again⟩, ?_⟩
  rw [← Bool.not_eq_true, unknown]
  rintro ⟨since, ⟨before, split⟩, _, _⟩
  have begun : Move.begin 6 ∈ history := split ▸ List.mem_append_right before (.head _)
  simp [history] at begun

/-! ## Between two messages -/

/-- A search that has just been begun is not abandoned. -/
theorem turn_search (responder : Responder) (id : MessageId) (request : Search) (connection : Connection)
    (storage : τ) (allows : connection.outlet.Allows 2) :
    let turn := connection.turn responder (.message ⟨id, .search request⟩) storage
    turn.2 = true ∧
      Act.replies turn.1.acts =
        [.of id (.searchEntry (entryName request.base) entryAttributes), .of id (.searchDone .success)] := by
  intro turn
  have unabandoned : Client.isAbandoned id (connection.begin id) = false :=
    connection.inFlight.isAbandoned_begin id
  have answered := handle_search responder id request (connection.begin id) storage
  rw [unabandoned] at answered
  obtain ⟨succeeds, replies⟩ := answered allows
  have turned : turn = _ := turn_of_ok succeeds
  rw [turned]
  exact ⟨rfl, replies⟩

theorem turn_idle (responder : Responder) (item : Item) {connection : Connection}
    (idle : connection.inFlight = .none) (storage : τ) :
    (connection.turn responder item storage).1.connection.inFlight = .none :=
  turn_keeps (fun c => c.inFlight = .none) idle (fun message => handle_idle responder message idle storage) item

theorem advance_idle (responder : Responder) {connection : Connection} (idle : connection.inFlight = .none)
    (storage : τ) : (connection.advance responder storage).1.connection.inFlight = .none :=
  turn_idle responder connection.next.1 ((next_inFlight connection).trans idle) storage

/-- Nothing is in flight at a message boundary of a session, however the message before it has ended, so that no
request to abandon has an effect on a later search: every search whose replies can be written gets its entry
and then is done. -/
theorem nothing_in_flight_between_messages (responder : Responder) (remote : Net.Endpoint)
    (upgrader : Tls.Upgrader) (laying : List (Except TlsFault Unit)) (outlet : Outlet) (tree : Os.Files)
    (inbox : List Arrival) (storage : τ) {boundary : Connection} {stored : τ}
    (reaches : Reaches responder { fresh remote upgrader tree inbox with laying, outlet } storage boundary
      stored) :
    let turn := boundary.advance responder stored
    boundary.inFlight = .none ∧ turn.1.connection.inFlight = .none ∧
      ∀ id request, boundary.next.1 = .message ⟨id, .search request⟩ → boundary.outlet.Allows 2 →
        turn.2 = true ∧
          Act.replies turn.1.acts =
            [.of id (.searchEntry (entryName request.base) entryAttributes),
              .of id (.searchDone .success)] := by
  intro turn
  let invariant (connection : Connection) : Prop := connection.inFlight = .none
  have kept (connection : Connection) (storage : τ) (holds : invariant connection) :
      invariant (connection.advance responder storage).1.connection :=
    advance_idle responder holds storage
  have start : invariant { fresh remote upgrader tree inbox with laying, outlet } := rfl
  have idle : invariant boundary := reaches.keeps kept start
  refine ⟨idle, advance_idle responder idle stored, ?_⟩
  intro id request asked allows
  have turned : turn = boundary.next.2.turn responder (.message ⟨id, .search request⟩) stored :=
    congrArg (boundary.next.2.turn responder · stored) asked
  rw [turned]
  exact turn_search responder id request boundary.next.2 stored ((next_outlet boundary).symm ▸ allows)

/-- A request to abandon the search behind it, which has the same id as the request itself. -/
theorem nothing_in_flight_behind_abandon :
    let responder : Responder := ⟨"t", ⟨"token", "now"⟩⟩
    let remote : Net.Endpoint := ⟨.v4 127 0 0 1, 4000, 0⟩
    let upgrader : Tls.Upgrader := ⟨none, ⟨.other [] [], []⟩, [], .other [] []⟩
    let abandon : Bytes := [0x30, 6, 2, 1, 7, 0x50, 1, 7]
    let search : Bytes := [0x30, 0x1a, 2, 1, 7, 0x63, 0x15, 4, 0, 10, 1, 2, 10, 1, 0, 2, 1, 0, 2, 1, 0, 1, 1, 0,
      0x87, 0, 0x30, 0]
    let client := { fresh remote upgrader ⟨[], [], []⟩ [.data (abandon ++ search)] with
      laying := [], outlet := .failing 2 .transportUnavailable }
    let first := client.advance responder Storage.Memory.empty
    let boundary := first.1.connection
    client.next.1 = .message ⟨7, .abandon 7⟩ ∧
      Reaches responder client Storage.Memory.empty boundary first.1.storage ∧
      boundary.inFlight = .none ∧
      boundary.next.1 = .message ⟨7, .search ⟨"", 0, .present "", []⟩⟩ ∧
      boundary.outlet.Allows 2 ∧
      Act.replies (boundary.advance responder first.1.storage).1.acts =
        [.of 7 (.searchEntry "cn=ldapcatch" entryAttributes), .of 7 (.searchDone .success)] := by
  intro responder remote upgrader abandon search client first boundary
  have asked : client.next.1 = .message ⟨7, .abandon 7⟩ := by with_unfolding_all rfl
  have goesOn : client.advance responder Storage.Memory.empty = (first.1, true) := by with_unfolding_all rfl
  have reaches : Reaches responder client Storage.Memory.empty boundary first.1.storage :=
    Reaches.here.onward goesOn
  have searched : boundary.next.1 = .message ⟨7, .search ⟨"", 0, .present "", []⟩⟩ := by
    with_unfolding_all rfl
  have room : boundary.outlet.Allows 2 := by with_unfolding_all exact Nat.le_refl 2
  obtain ⟨idle, _, complete⟩ := nothing_in_flight_between_messages responder remote upgrader []
    (.failing 2 .transportUnavailable) ⟨[], [], []⟩ [.data (abandon ++ search)] Storage.Memory.empty reaches
  exact ⟨asked, reaches, idle, searched, room, (complete 7 _ searched room).2⟩

end LdapDecoy.Server.Connection
