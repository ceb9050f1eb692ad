import LdapDecoy.Tls.Key.Elliptic
import LdapDecoy.Tls.Key.Rsa
import LdapDecoy.Tls.Key.Unmeasured

/-!
# Keys in envelopes

A key of any algorithm, in an envelope that names the algorithm.
-/
namespace LdapDecoy.Tls
open Asn1 Asn1.Reader

structure Envelope where
  algorithm : Algorithm
  content : Bytes
  deriving DecidableEq, Repr

namespace Envelope

/-- Something that is said of a key. -/
def remark : Reader Unit := inSequence do
  let _ ← objectId
  let _ ← listOf .set any

/-- A version, the algorithm, the key, and what is said of it; the public half can stand in the second version
only. -/
def reader : Reader Envelope := inSequence do
  let version ← integer
  let algorithm ← Algorithm.reader
  let content ← octets
  let _ ← optional (.field 0) (listOf (.field 0) remark)
  let half ← optional (.field 1) (bitsTagged (.field 1))
  guard (version = 1 || version = 0 && half.isNone)
  return ⟨algorithm, content⟩

/-- The elliptic key in an envelope, whose curve must be among the parameters. -/
def elliptic? (pass : Pass) (envelope : Envelope) : Option PrivateKey := do
  EllipticKey.private? pass (some (← envelope.algorithm.curve?)) envelope.content

/-- A key on the curve whose keys are of a kind of their own. -/
def apart? (envelope : Envelope) : Option PrivateKey := do
  EllipticKey.apart? (some (← envelope.algorithm.curve?)) envelope.content

/-- The key in an envelope. -/
def private? (pass : Pass) (envelope : Envelope) : Option PrivateKey :=
  let algorithm := envelope.algorithm
  let content := envelope.content
  if algorithm.name = Algorithm.rsa then RsaKey.private? pass content
  else if algorithm.name = Algorithm.rsaPss then
    if RsaKey.hasScheme algorithm then RsaKey.private? pass content else none
  else if algorithm.name = Algorithm.elliptic then envelope.elliptic? pass
  else if algorithm.name = Algorithm.apart then
    match pass with
    | .search => envelope.apart?
    | .direct => envelope.elliptic? .direct
  else if algorithm.name = Algorithm.dsa then UnmeasuredKey.signature? algorithm content
  else if algorithm.name = Algorithm.diffieHellman then
    UnmeasuredKey.agreement? algorithm UnmeasuredKey.plainGroup content
  else if algorithm.name = Algorithm.diffieHellmanOrder then
    UnmeasuredKey.agreement? algorithm UnmeasuredKey.orderedGroup content
  else do UnmeasuredKey.sized? algorithm (← Algorithm.sized.lookup algorithm.name) content

/-- The envelope at the head of some octets, if its algorithm is one of some. -/
def among? (names : List Bytes) (content : Bytes) : Option Envelope :=
  (reader.value? content).filter fun envelope => names.contains envelope.algorithm.name

end Envelope

end LdapDecoy.Tls
