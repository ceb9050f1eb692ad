import LdapDecoy.Proofs.Server.Complaints
import LdapDecoy.Proofs.Server.Segmentation

/-!
# Malformed messages between others

A malformed message touches nothing but the log. Two sessions, of which one has malformed messages between the
messages of the other, write the same replies, through whatever outlet; and their records are the same but for one
complaint about each of these messages, where it stands.
-/
namespace LdapDecoy.Server
open Ldap Responder

/-! ## Pieces of a stream -/

/-- A whole message of a stream, malformed or not, which asks neither to unbind nor for an upgrade. -/
structure Piece where
  octets : Bytes
  item : Connection.Item
  whole : Stream.first octets = (item, [])
  notLast : item.isLast = false
  noUpgrade : item.asksUpgrade = false
  /-- Whether it has been put between the messages of another stream. -/
  isInserted : Bool
  malformed : isInserted = true → item.isMalformed = true

namespace Piece

/-- The octets of some pieces. -/
def stream (pieces : List Piece) : Bytes := pieces.flatMap octets

/-- The pieces that have not been inserted. -/
def own (pieces : List Piece) : List Piece := pieces.filter fun piece => !piece.isInserted

theorem stream_cons (piece : Piece) (pieces : List Piece) :
    stream (piece :: pieces) = piece.octets ++ stream pieces :=
  List.flatMap_cons

theorem own_inserted {piece : Piece} (isInserted : piece.isInserted = true) (pieces : List Piece) :
    own (piece :: pieces) = own pieces := by
  rw [own, List.filter_cons_of_neg (by rw [isInserted]; decide), own]

theorem own_cons {piece : Piece} (isOwn : piece.isInserted = false) (pieces : List Piece) :
    own (piece :: pieces) = piece :: own pieces := by
  rw [own, List.filter_cons_of_pos (by rw [isOwn]; rfl), own]

/-- A piece is the first item of a stream that begins with it. -/
theorem first_append (piece : Piece) (more : Bytes) :
    Stream.first (piece.octets ++ more) = (piece.item, more) := by
  have complete : frame piece.octets ≠ .incomplete := by
    intro incomplete
    have last : (Stream.first piece.octets).1.isLast = true := by
      rw [Stream.first, incomplete]
      dsimp only
      split <;> rfl
    rw [piece.whole, piece.notLast] at last
    cases last
  rw [Stream.first_append complete, piece.whole, List.nil_append]

/-- The records of a piece. -/
def offers (responder : Responder) (remote : Net.Endpoint) (piece : Piece) : List Offer :=
  piece.item.offers responder remote

variable (responder : Responder) (remote : Net.Endpoint)

/-- Without the complaints, the records of some pieces are those of the well-formed ones. -/
theorem filter_offers (pieces : List Piece) :
    (pieces.flatMap (offers responder remote)).filter (fun offer => !complains remote offer) =
      (pieces.filter fun piece => !piece.item.isMalformed).flatMap (offers responder remote) := by
  induction pieces with
  | nil => rfl
  | cons piece pieces ih =>
      rw [List.flatMap_cons, List.filter_append, ih, offers, piece.item.filter_offers]
      cases malformed : piece.item.isMalformed <;>
        simp only [List.filter_cons, malformed, Bool.not_true, Bool.not_false, if_true,
          Bool.false_eq_true, if_false, List.flatMap_cons, List.nil_append, offers]

/-- Among the records of some pieces there is one complaint for each of the malformed ones. -/
theorem countP_offers (pieces : List Piece) :
    (pieces.flatMap (offers responder remote)).countP (complains remote) =
      pieces.countP fun piece => piece.item.isMalformed := by
  induction pieces with
  | nil => rfl
  | cons piece pieces ih =>
      rw [List.flatMap_cons, List.countP_append, ih, offers, piece.item.countP_offers, List.countP_cons,
        Nat.add_comm]

/-- What is well-formed has not been inserted. -/
theorem filter_own (pieces : List Piece) :
    (own pieces).filter (fun piece => !piece.item.isMalformed) =
      pieces.filter fun piece => !piece.item.isMalformed := by
  rw [own, List.filter_filter]
  apply List.filter_congr
  intro piece _
  have malformed := piece.malformed
  cases inserted : piece.isInserted with
  | true => rw [malformed inserted]; rfl
  | false => rw [Bool.not_false, Bool.and_true]

/-- What a session records in which some pieces are heard, and then something happens with which it ends. -/
def account (last : List Offer) (pieces : List Piece) : List Offer :=
  about responder remote " connected" :: (pieces.flatMap (offers responder remote) ++ last) ++
    [about responder remote " disconnected"]

variable {last : List Offer} (silent : ∀ offer ∈ last, complains remote offer = false)
include silent

theorem filter_account (pieces : List Piece) :
    (account responder remote last pieces).filter (fun offer => !complains remote offer) =
      account responder remote last (pieces.filter fun piece => !piece.item.isMalformed) := by
  have kept : last.filter (fun offer => !complains remote offer) = last := by
    rw [List.filter_eq_self]
    intro offer among
    rw [silent offer among]
    rfl
  simp only [account, List.filter_append, List.filter_cons, List.filter_nil, complains_connected,
    complains_disconnected, kept, filter_offers, Bool.not_false, if_true]

theorem countP_account (pieces : List Piece) :
    (account responder remote last pieces).countP (complains remote) =
      pieces.countP fun piece => piece.item.isMalformed := by
  have none : last.countP (complains remote) = 0 := by
    rw [List.countP_eq_zero]
    intro offer among
    rw [silent offer among]
    exact Bool.false_ne_true
  simp only [account, List.countP_append, List.countP_cons, List.countP_nil, complains_connected,
    complains_disconnected, none, countP_offers, Bool.false_eq_true, if_false, Nat.add_zero]

end Piece

namespace Connection

variable {τ τ' : Type} [Storage τ] [Storage τ']

/-! ## One turn through whatever outlet -/

/-- The record of a reply that cannot be written. -/
def unwritten (responder : Responder) (remote : Net.Endpoint) (fault : SessionFault) : Offer :=
  responder.recorder.internal ("Unable to write to LDAP client " ++ remote.text ++ (": " ++ fault.message))

/-- A turn without an upgrade makes the records of its item; or a reply cannot be written, and then that is
recorded and nothing else, and the session ends. -/
theorem turn_offers (responder : Responder) {item : Item} (noUpgrade : item.asksUpgrade = false)
    (connection : Connection) (storage : τ) :
    let turn := connection.turn responder item storage
    (turn.2 = !item.isLast ∧ Act.offers turn.1.acts = item.offers responder connection.remote) ∨
      (turn.2 = false ∧ ∃ fault, connection.outlet.fault? = some fault ∧
        Act.offers turn.1.acts = [unwritten responder connection.remote fault]) := by
  intro turn
  cases item with
  | ended => exact .inl ⟨rfl, rfl⟩
  | unreadable _ | malformed _ => exact .inl ⟨rfl, note_offers responder _ _ _ _⟩
  | message message =>
      rcases result : (connection.handle responder message storage).result with fault | flow
      · right
        have kept := handle_remote responder message (connection.begin message.id) storage
        obtain ⟨limit, unrecorded⟩ := handle_of_error result
        have turned : turn = _ := turn_of_error result
        rw [turned]
        refine ⟨rfl, fault, limit, ?_⟩
        change Act.offers ((connection.handle responder message storage).acts ++ _) = _
        have silent : Act.offers (connection.handle responder message storage).acts = [] := unrecorded
        rw [Act.offers_append, silent, note_offers]
        exact congrArg (fun remote => [unwritten responder remote fault]) kept
      · left
        have shows := handle_alone responder noUpgrade result
        have turned : turn = _ := turn_of_ok result
        rw [turned]
        refine ⟨?_, shows.offers⟩
        obtain rfl : flow = Policy.flow message.operation := Except.ok.inj (result.symm.trans shows.result)
        obtain ⟨id, operation⟩ := message
        cases operation <;> rfl

theorem advance_offers (responder : Responder) {connection : Connection}
    (noUpgrade : connection.next.1.asksUpgrade = false) (storage : τ) :
    let turn := connection.advance responder storage
    (turn.2 = !connection.next.1.isLast ∧
      Act.offers turn.1.acts = connection.next.1.offers responder connection.remote) ∨
      (turn.2 = false ∧ ∃ fault, connection.outlet.fault? = some fault ∧
        Act.offers turn.1.acts = [unwritten responder connection.remote fault]) := by
  have offers := turn_offers responder noUpgrade connection.next.2 storage
  rw [next_remote, next_outlet] at offers
  exact offers

/-- A malformed message is recorded and passed over. -/
theorem advance_malformed (responder : Responder) {connection : Connection}
    (malformed : connection.next.1.isMalformed = true) (storage : τ) :
    let turn := connection.advance responder storage
    turn.2 = true ∧ turn.1.connection = connection.next.2 ∧ Act.replies turn.1.acts = [] ∧
      Act.offers turn.1.acts = connection.next.1.offers responder connection.remote := by
  rw [← next_remote connection, advance]
  cases item : connection.next.1 with
  | malformed flaw => exact ⟨rfl, rfl, note_replies responder _ _ _ _, note_offers responder _ _ _ _⟩
  | message _ | unreadable _ | ended =>
      rw [item] at malformed
      cases malformed

/-- A turn leaves the client where it is, and what its replies come to. -/
theorem advance_keeps (responder : Responder) (connection : Connection) (storage : τ) :
    (connection.advance responder storage).1.connection.remote = connection.remote ∧
      (connection.advance responder storage).1.connection.outlet.fault? = connection.outlet.fault? := by
  let same (c : Connection) : Prop := c.remote = connection.remote ∧ c.outlet.fault? = connection.outlet.fault?
  have handles (message : Message) : same (connection.next.2.handle responder message storage).client := by
    have remote := handle_remote responder message (connection.next.2.begin message.id) storage
    have fault := handle_fault? responder message (connection.next.2.begin message.id) storage
    exact ⟨remote.trans (next_remote connection),
      fault.trans (congrArg Outlet.fault? (next_outlet connection))⟩
  have start : same connection.next.2 :=
    ⟨next_remote connection, congrArg Outlet.fault? (next_outlet connection)⟩
  exact turn_keeps same start handles connection.next.1

/-! ## Two sessions -/

/-- Over whatever two stores, both do the same about the next item, if it is the same for both and asks for no
upgrade. -/
theorem Abreast.advance_elsewhere {stream stream' : Bytes} {connection other : Connection}
    (abreast : Abreast stream stream' connection other) (responder : Responder)
    (same : (Stream.first stream').1 = (Stream.first stream).1)
    (noUpgrade : (Stream.first stream).1.asksUpgrade = false) (storage : τ) (elsewhere : τ') :
    let turn := connection.advance responder storage
    let turn' := other.advance responder elsewhere
    turn'.2 = turn.2 ∧ Act.replies turn'.1.acts = Act.replies turn.1.acts ∧
      Act.offers turn'.1.acts = Act.offers turn.1.acts ∧
      Abreast (Stream.first stream).2 (Stream.first stream').2 turn.1.connection turn'.1.connection := by
  obtain ⟨behind, turned, abreast'⟩ := abreast.advance responder same noUpgrade storage
  obtain ⟨goesOn, alike⟩ := Connection.advance_elsewhere responder other storage elsewhere
  rw [turned] at goesOn alike
  refine ⟨goesOn, alike.replies, alike.offers, ?_⟩
  rw [alike.connection]
  exact abreast'

/-- What two sessions over some pieces come to, of which the second goes without those that have been inserted:
some of the pieces are heard, and then both end, with the last item of the stream or with a reply that cannot be
written. -/
structure Beside (responder : Responder) (remote : Net.Endpoint) (limit : Option SessionFault)
    (pieces : List Piece) (ending : Item) (served : Served τ) (bare : Served τ') : Prop where
  place : served.connection.remote = remote
  place' : bare.connection.remote = remote
  replies : Act.replies bare.acts = Act.replies served.acts
  records : ∃ heard last,
    heard <+: pieces ∧
    Act.offers served.acts = heard.flatMap (Piece.offers responder remote) ++ last ∧
    Act.offers bare.acts = (Piece.own heard).flatMap (Piece.offers responder remote) ++ last ∧
    ((heard = pieces ∧ last = ending.offers responder remote) ∨
      ∃ fault, limit = some fault ∧ last = [unwritten responder remote fault])

namespace Beside

variable {responder : Responder} {remote : Net.Endpoint} {limit : Option SessionFault}
  {pieces : List Piece} {ending : Item} {served : Served τ} {bare : Served τ'}

omit [Storage τ] [Storage τ'] in
/-- A piece that has been inserted is recorded in the first session alone. -/
theorem inserted (beside : Beside responder remote limit pieces ending served bare) {piece : Piece}
    (isInserted : piece.isInserted = true) {acts : List Act} (replies : Act.replies acts = [])
    (offers : Act.offers acts = piece.offers responder remote) :
    Beside responder remote limit (piece :: pieces) ending (served.after acts) bare := by
  obtain ⟨heard, last, isPrefix, whole, without, ends⟩ := beside.records
  refine ⟨beside.place, beside.place', ?_, piece :: heard, last, ?_, ?_, ?_, ?_⟩
  · change _ = Act.replies (acts ++ served.acts)
    rw [Act.replies_append, replies, beside.replies]
    rfl
  · exact List.cons_prefix_cons.mpr ⟨rfl, isPrefix⟩
  · change Act.offers (acts ++ served.acts) = _
    rw [Act.offers_append, offers, whole, List.flatMap_cons, List.append_assoc]
  · rw [without, Piece.own_inserted isInserted]
  · rcases ends with ⟨rfl, ended⟩ | failed
    · exact .inl ⟨rfl, ended⟩
    · exact .inr failed

omit [Storage τ] [Storage τ'] in
/-- A piece of both streams is answered and recorded in both sessions. -/
theorem own (beside : Beside responder remote limit pieces ending served bare) {piece : Piece}
    (isOwn : piece.isInserted = false) {acts acts' : List Act}
    (replies : Act.replies acts' = Act.replies acts)
    (offers : Act.offers acts = piece.offers responder remote)
    (offers' : Act.offers acts' = Act.offers acts) :
    Beside responder remote limit (piece :: pieces) ending (served.after acts) (bare.after acts') := by
  obtain ⟨heard, last, isPrefix, whole, without, ends⟩ := beside.records
  refine ⟨beside.place, beside.place', ?_, piece :: heard, last, ?_, ?_, ?_, ?_⟩
  · change Act.replies (acts' ++ bare.acts) = Act.replies (acts ++ served.acts)
    rw [Act.replies_append, Act.replies_append, replies, beside.replies]
  · exact List.cons_prefix_cons.mpr ⟨rfl, isPrefix⟩
  · change Act.offers (acts ++ served.acts) = _
    rw [Act.offers_append, offers, whole, List.flatMap_cons, List.append_assoc]
  · change Act.offers (acts' ++ bare.acts) = _
    rw [Act.offers_append, offers', offers, without, Piece.own_cons isOwn, List.flatMap_cons,
      List.append_assoc]
  · rcases ends with ⟨rfl, ended⟩ | failed
    · exact .inl ⟨rfl, ended⟩
    · exact .inr failed

end Beside

namespace Abreast

variable {responder : Responder} {remote : Net.Endpoint} {limit : Option SessionFault}
  {pieces : List Piece} {connection other : Connection}

/-- Both sessions end with the same turn. -/
theorem beside_of_stop {stream stream' : Bytes} (abreast : Abreast stream stream' connection other)
    (same : (Stream.first stream').1 = (Stream.first stream).1)
    (noUpgrade : (Stream.first stream).1.asksUpgrade = false) (place : connection.remote = remote)
    {storage : τ} (stops : (connection.advance responder storage).2 = false) {ending : Item}
    (ends : ([] = pieces ∧
        Act.offers (connection.advance responder storage).1.acts = ending.offers responder remote) ∨
      ∃ fault, limit = some fault ∧
        Act.offers (connection.advance responder storage).1.acts = [unwritten responder remote fault])
    (elsewhere : τ') :
    Beside responder remote limit pieces ending (serve responder connection storage)
      (serve responder other elsewhere) := by
  obtain ⟨goesOn, replies, offers, abreast'⟩ :=
    abreast.advance_elsewhere responder same noUpgrade storage elsewhere
  obtain ⟨kept, _⟩ := advance_keeps responder connection storage
  have served := serve_last (Prod.ext rfl stops)
  have served' := serve_last (Prod.ext rfl (goesOn.trans stops))
  rw [served, served']
  refine ⟨kept.trans place, abreast'.remote_eq.trans (kept.trans place), replies, [], _, ?_, rfl, offers, ends⟩
  exact List.nil_prefix

theorem beside_nil {ending : Bytes} (abreast : Abreast ending ending connection other)
    (ends : (Stream.first ending).1.isLast = true) (place : connection.remote = remote)
    (bound : connection.outlet.fault? = limit) (storage : τ) (elsewhere : τ') :
    Beside responder remote limit [] (Stream.first ending).1 (serve responder connection storage)
      (serve responder other elsewhere) := by
  have noUpgrade := Item.noUpgrade_of_last ends
  obtain ⟨item, _⟩ := next_brings abreast.brings
  have recorded := advance_offers responder (item ▸ noUpgrade) storage
  rw [item, place, bound, ends] at recorded
  rcases recorded with ⟨stops, offers⟩ | ⟨stops, fault, fails, offers⟩
  · exact abreast.beside_of_stop rfl noUpgrade place stops (.inl ⟨rfl, offers⟩) elsewhere
  · exact abreast.beside_of_stop rfl noUpgrade place stops (.inr ⟨fault, fails, offers⟩) elsewhere

/-- The first session records an inserted piece, and the second one does not come to it. -/
theorem beside_inserted {piece : Piece} {more stream' : Bytes}
    (abreast : Abreast (piece.octets ++ more) stream' connection other)
    (isInserted : piece.isInserted = true) (place : connection.remote = remote)
    (bound : connection.outlet.fault? = limit) {ending : Item} (storage : τ) (elsewhere : τ')
    (rest : ∀ (behind : Connection) (stored : τ), Abreast more stream' behind other →
      behind.remote = remote → behind.outlet.fault? = limit →
        Beside responder remote limit pieces ending (serve responder behind stored)
          (serve responder other elsewhere)) :
    Beside responder remote limit (piece :: pieces) ending (serve responder connection storage)
      (serve responder other elsewhere) := by
  obtain ⟨item, _⟩ := next_brings abreast.brings
  have behind := abreast.first
  rw [piece.first_append] at item behind
  have malformed : connection.next.1.isMalformed = true := by
    rw [item]
    exact piece.malformed isInserted
  obtain ⟨goesOn, client, replies, offers⟩ := advance_malformed responder malformed storage
  rw [item, place] at offers
  rw [serve_more (Prod.ext rfl goesOn), client]
  have heard := rest connection.next.2 (connection.advance responder storage).1.storage behind
    ((next_remote connection).trans place) ((congrArg Outlet.fault? (next_outlet connection)).trans bound)
  exact heard.inserted isInserted replies offers

/-- Both sessions do the same about a piece of both streams. -/
theorem beside_own {piece : Piece} {more more' : Bytes}
    (abreast : Abreast (piece.octets ++ more) (piece.octets ++ more') connection other)
    (isOwn : piece.isInserted = false) (place : connection.remote = remote)
    (bound : connection.outlet.fault? = limit) {ending : Item} (storage : τ) (elsewhere : τ')
    (rest : ∀ (behind behind' : Connection) (stored : τ) (stored' : τ'), Abreast more more' behind behind' →
      behind.remote = remote → behind.outlet.fault? = limit →
        Beside responder remote limit pieces ending (serve responder behind stored)
          (serve responder behind' stored')) :
    Beside responder remote limit (piece :: pieces) ending (serve responder connection storage)
      (serve responder other elsewhere) := by
  have here := piece.first_append more
  have there := piece.first_append more'
  have same : (Stream.first (piece.octets ++ more')).1 = (Stream.first (piece.octets ++ more)).1 := by
    rw [here, there]
  have noUpgrade : (Stream.first (piece.octets ++ more)).1.asksUpgrade = false := by
    rw [here]
    exact piece.noUpgrade
  obtain ⟨item, _⟩ := next_brings abreast.brings
  have recorded := advance_offers responder (item ▸ noUpgrade) storage
  rw [item, here, place, bound, piece.notLast] at recorded
  rcases recorded with ⟨goesOn, offers⟩ | ⟨stops, fault, fails, offers⟩
  · obtain ⟨goesOn', replies, offers', behind⟩ :=
      abreast.advance_elsewhere responder same noUpgrade storage elsewhere
    obtain ⟨place', bound'⟩ := advance_keeps responder connection storage
    rw [here, there] at behind
    rw [serve_more (Prod.ext rfl goesOn), serve_more (Prod.ext rfl (goesOn'.trans goesOn))]
    exact (rest _ _ _ _ behind (place'.trans place) (bound'.trans bound)).own isOwn replies offers offers'
  · exact abreast.beside_of_stop same noUpgrade place stops (.inr ⟨fault, fails, offers⟩) elsewhere

/-- Two sessions over the same pieces, of which the second goes without those that have been inserted. -/
theorem beside {ending : Bytes} (ends : (Stream.first ending).1.isLast = true)
    (abreast : Abreast (Piece.stream pieces ++ ending) (Piece.stream (Piece.own pieces) ++ ending)
      connection other)
    (place : connection.remote = remote) (bound : connection.outlet.fault? = limit) (storage : τ)
    (elsewhere : τ') :
    Beside responder remote limit pieces (Stream.first ending).1 (serve responder connection storage)
      (serve responder other elsewhere) := by
  -- the stores differ behind the first inserted piece, and stay so
  induction pieces generalizing connection other storage elsewhere with
  | nil => exact abreast.beside_nil ends place bound storage elsewhere
  | cons piece pieces ih =>
      rw [Piece.stream_cons, List.append_assoc] at abreast
      cases inserted : piece.isInserted with
      | true =>
          rw [Piece.own_inserted inserted] at abreast
          refine abreast.beside_inserted inserted place bound storage elsewhere ?_
          intro behind stored abreast place bound
          exact ih abreast place bound stored elsewhere
      | false =>
          rw [Piece.own_cons inserted, Piece.stream_cons, List.append_assoc] at abreast
          refine abreast.beside_own inserted place bound storage elsewhere ?_
          intro behind behind' stored stored' abreast place bound
          exact ih abreast place bound stored stored'

end Abreast

/-- What is recorded when both sessions end is no complaint. -/
theorem not_complains_of_end {responder : Responder} {remote : Net.Endpoint} {limit : Option SessionFault}
    {item : Item} (isLast : item.isLast = true) {last : List Offer}
    (ends : last = item.offers responder remote ∨
      ∃ fault, limit = some fault ∧ last = [unwritten responder remote fault]) :
    ∀ offer ∈ last, complains remote offer = false := by
  intro offer among
  rcases ends with rfl | ⟨fault, _, rfl⟩
  · rw [item.complains_offers responder remote offer among]
    cases item with
    | malformed _ => cases isLast
    | message _ | unreadable _ | ended => rfl
  · obtain rfl := List.mem_singleton.mp among
    have begins : ("Unable to write to LDAP client " ++ remote.text ++ (": " ++ fault.message)).toList =
        'U' :: ("nable to write to LDAP client ".toList ++ remote.text.toList ++ (": " ++ fault.message).toList) := by
      rw [String.toList_append, String.toList_append]
      rfl
    exact not_complains_of_head begins (by decide) remote responder.recorder none ""

/-- Two sessions of a client that asks for no upgrade, of which the first has malformed messages between the
messages of the second, in front of its end or its first request to unbind. Their replies are the same, and so are
their records without the complaints. Some pieces are heard: all of them, unless a reply cannot be written; and each
session records what there is to each of its own pieces, where that stands, with one complaint for each malformed
message. -/
theorem malformed_touches_log_alone (responder : Responder) (remote : Net.Endpoint) (upgrader : Tls.Upgrader)
    (outlet : Outlet) (tree : Os.Files) (storage : τ) (pieces : List Piece) {ending : Bytes}
    (ends : (Stream.first ending).1.isLast = true) {chunks chunks' : List Bytes}
    (disturbed : chunks.flatten = Piece.stream pieces ++ ending)
    (undisturbed : chunks'.flatten = Piece.stream (Piece.own pieces) ++ ending) :
    let session (chunks : List Bytes) :=
      Connection.session responder { fresh remote upgrader tree (chunks.map .data) with outlet } storage
    let offers := Act.offers (session chunks).acts
    let offers' := Act.offers (session chunks').acts
    Act.replies (session chunks).acts = Act.replies (session chunks').acts ∧
      offers.filter (fun offer => !complains remote offer) =
        offers'.filter (fun offer => !complains remote offer) ∧
      ∃ heard last,
        heard <+: pieces ∧
        offers = Piece.account responder remote last heard ∧
        offers' = Piece.account responder remote last (Piece.own heard) ∧
        offers.countP (complains remote) = heard.countP (fun piece => piece.item.isMalformed) ∧
        offers'.countP (complains remote) =
          (Piece.own heard).countP (fun piece => piece.item.isMalformed) ∧
        ((heard = pieces ∧ last = (Stream.first ending).1.offers responder remote) ∨
          ∃ fault, outlet.fault? = some fault ∧ last = [unwritten responder remote fault]) := by
  intro session offers offers'
  let client (chunks : List Bytes) : Connection := { fresh remote upgrader tree (chunks.map .data) with outlet }
  let served (chunks : List Bytes) : Served τ :=
    serve responder (client chunks) ((client chunks).greet responder storage).2
  have abreast : Abreast (Piece.stream pieces ++ ending) (Piece.stream (Piece.own pieces) ++ ending)
      (client chunks) (client chunks') :=
    ⟨⟨chunks, rfl, disturbed.symm⟩, ⟨chunks', rfl, undisturbed.symm⟩, [], chunks'.map .data, rfl⟩
  have beside : Beside responder remote outlet.fault? pieces (Stream.first ending).1 (served chunks)
      (served chunks') := abreast.beside ends rfl rfl _ _
  obtain ⟨heard, last, isPrefix, recorded, recorded', ended⟩ := beside.records
  have silent := not_complains_of_end ends (ended.imp_left And.right)
  have account {chunks : List Bytes} {pieces : List Piece} (place : (served chunks).connection.remote = remote)
      (recorded : Act.offers (served chunks).acts = pieces.flatMap (Piece.offers responder remote) ++ last) :
      Act.offers (session chunks).acts = Piece.account responder remote last pieces := by
    refine (session_shows responder (client chunks) storage).1.trans ?_
    change [_] ++ Act.offers (served chunks).acts ++ [about responder (served chunks).connection.remote _] = _
    rw [recorded, place]
    rfl
  have disturbed : offers = _ := account beside.place recorded
  have undisturbed : offers' = _ := account beside.place' recorded'
  refine ⟨?_, ?_, heard, last, isPrefix, disturbed, undisturbed, ?_, ?_, ended⟩
  · calc Act.replies (session chunks).acts
      _ = Act.replies (served chunks).acts := (session_shows responder (client chunks) storage).2
      _ = Act.replies (served chunks').acts := beside.replies.symm
      _ = Act.replies (session chunks').acts := (session_shows responder (client chunks') storage).2.symm
  · rw [disturbed, undisturbed, Piece.filter_account responder remote silent,
      Piece.filter_account responder remote silent, Piece.filter_own]
  · rw [disturbed, Piece.countP_account responder remote silent]
  · rw [undisturbed, Piece.countP_account responder remote silent]

/-- A malformed message in front of a bind and another one behind it, in one read, and the bind alone, octet by octet;
then the client unbinds, and sends something behind that. -/
theorem malformed_around_bind :
    let responder : Responder := ⟨"t", ⟨"token", "now"⟩⟩
    let remote : Net.Endpoint := ⟨.v4 127 0 0 1, 4000, 0⟩
    let upgrader : Tls.Upgrader := ⟨none, ⟨.other [] [], []⟩, [], .other [] []⟩
    let malformed : Piece := ⟨[0x30, 5, 2, 1, 1, 0x5e, 0], .malformed .operationKind, by with_unfolding_all rfl,
      rfl, rfl, true, fun _ => rfl⟩
    let bind : Piece := ⟨[0x30, 12, 2, 1, 2, 0x60, 7, 2, 1, 3, 4, 0, 0x80, 0],
      .message ⟨2, .bind "" (.simple "")⟩, by with_unfolding_all rfl, rfl, rfl, false, nofun⟩
    let pieces := [malformed, bind, malformed]
    let ending : Bytes := [0x30, 5, 2, 1, 3, 0x42, 0, 0xff]
    let chunks := [Piece.stream pieces ++ ending]
    let chunks' := (bind.octets ++ ending).map fun octet => [octet]
    let session (chunks : List Bytes) :=
      Connection.session responder
        { fresh remote upgrader ⟨[], [], []⟩ (chunks.map .data) with outlet := .working } Storage.Memory.empty
    let offers := Act.offers (session chunks).acts
    let offers' := Act.offers (session chunks').acts
    (Stream.first ending).1 = .message ⟨3, .unbind⟩ ∧
      chunks.flatten = Piece.stream pieces ++ ending ∧
      chunks'.flatten = Piece.stream (Piece.own pieces) ++ ending ∧
      Act.replies (session chunks).acts = Act.replies (session chunks').acts ∧
      offers.filter (fun offer => !complains remote offer) =
        offers'.filter (fun offer => !complains remote offer) ∧
      offers.countP (complains remote) = 2 ∧ offers'.countP (complains remote) = 0 := by
  intro responder remote upgrader malformed bind pieces ending chunks chunks' session offers offers'
  have unbinds : (Stream.first ending).1 = .message ⟨3, .unbind⟩ := by with_unfolding_all rfl
  have ends : (Stream.first ending).1.isLast = true := congrArg Item.isLast unbinds
  have disturbed : chunks.flatten = Piece.stream pieces ++ ending := List.append_nil _
  have undisturbed : chunks'.flatten = Piece.stream (Piece.own pieces) ++ ending := rfl
  obtain ⟨replies, records, heard, last, _, _, _, complaints, complaints', ended⟩ :=
    malformed_touches_log_alone responder remote upgrader .working ⟨[], [], []⟩ Storage.Memory.empty pieces ends
      disturbed undisturbed
  refine ⟨unbinds, disturbed, undisturbed, replies, records, ?_⟩
  rcases ended with ⟨rfl, _⟩ | ⟨_, fails, _⟩
  · exact ⟨complaints, complaints'⟩
  · cases fails

end Connection

end LdapDecoy.Server
