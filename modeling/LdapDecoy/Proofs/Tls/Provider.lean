import LdapDecoy.Proofs.Os.Files
import LdapDecoy.Tls.Handshake

/-!
# Pairs and what they are taken for

What it takes for a pair to be read and to be shown. Two files that read the same give the same pair; the loopback
pair can be read and shown; and a pair that has been read is shown if its key belongs to its leaf, and only then.
-/
namespace LdapDecoy.Tls

/-- What passes a test on results is a result. -/
theorem exists_of_any {ε α : Type} {answer : Except ε α} {test : α → Bool}
    (passes : answer.toOption.any test = true) : ∃ result, answer = .ok result ∧ test result = true := by
  cases answer with
  | error fault => cases passes
  | ok result => exact ⟨result, rfl, passes⟩

theorem eq_ok_of_isOk {ε : Type} {answer : Except ε Unit} (isOk : answer.isOk = true) : answer = .ok () := by
  cases answer with
  | error fault => cases isOk
  | ok _ => rfl

namespace CertifiedKey

/-- A pair is read where there is a certificate to read and a key. -/
theorem ofPem_eq_ok {chain key : Bytes} {pair : CertifiedKey} :
    ofPem chain key = .ok pair ↔
      Certificate.ofPem chain = .ok (pair.leaf :: pair.intermediates) ∧ PrivateKey.ofPem key = .ok pair.key := by
  constructor
  · intro read
    unfold ofPem at read
    cases certificates : Certificate.ofPem chain with
    | error flaw =>
        rw [certificates] at read
        cases read
    | ok found =>
        rw [certificates] at read
        cases found with
        | nil => cases read
        | cons leaf intermediates =>
            cases found : PrivateKey.ofPem key with
            | error flaw =>
                rw [found] at read
                cases read
            | ok key =>
                rw [found] at read
                cases read
                exact ⟨rfl, rfl⟩
  · rintro ⟨certificates, found⟩
    rw [ofPem, certificates]
    dsimp only
    rw [found]

/-- Whether a pair is an RSA key with a certificate of it. -/
def isRsa (pair : CertifiedKey) : Bool :=
  match pair.key with
  | .rsa modulus exponent => pair.leaf.publicKey = .rsa modulus exponent
  | .elliptic _ _ _ | .other _ _ => false

theorem exists_of_isRsa {pair : CertifiedKey} (rsa : pair.isRsa = true) :
    ∃ modulus exponent, pair.key = .rsa modulus exponent ∧ pair.leaf.publicKey = .rsa modulus exponent := by
  unfold isRsa at rsa
  cases key : pair.key with
  | rsa modulus exponent =>
      rw [key] at rsa
      exact ⟨modulus, exponent, rfl, of_decide_eq_true rsa⟩
  | elliptic _ _ _ | other _ _ =>
      rw [key] at rsa
      cases rsa

end CertifiedKey

/-! ## The loopback pair -/

namespace Loopback

/-- The first line of a text, written out so that it can be read letter by letter. -/
theorem textOf_cons (line : List Char) (rest : List String) :
    textOf (String.ofList line :: rest) = Text.Utf8.encode (line ++ ['\n']) ++ textOf rest := by
  rw [textOf, Text.bytes, List.map_cons, String.join_cons, String.toList_append, String.toList_append,
    String.toList_ofList, Text.Utf8.encode, List.flatMap_append]
  rfl

/-- The loopback pair can be read, is large enough, and is an RSA key with a certificate of it. -/
theorem usable :
    (CertifiedKey.loopback.toOption.any fun pair => pair.key.check.1.isOk && pair.isRsa) = true := by
  rw [CertifiedKey.loopback, chain, key]
  repeat rw [textOf_cons]
  decide +kernel

end Loopback

theorem CertifiedKey.exists_loopback :
    ∃ pair, loopback = .ok pair ∧ pair.key.check.1 = .ok () ∧ pair.isRsa = true := by
  obtain ⟨pair, read, usable⟩ := exists_of_any Loopback.usable
  obtain ⟨large, rsa⟩ := Bool.and_eq_true_iff.mp usable
  exact ⟨pair, read, eq_ok_of_isOk large, rsa⟩

/-- Any key that can be read makes a pair with the loopback certificate, which is one for an RSA key. -/
theorem CertifiedKey.exists_with_loopback {text : Bytes} {key : PrivateKey} (found : PrivateKey.ofPem text = .ok key) :
    ∃ pair, ofPem Loopback.chain text = .ok pair ∧ pair.key = key ∧
      ∃ modulus exponent, pair.leaf.publicKey = .rsa modulus exponent := by
  obtain ⟨own, read, _, rsa⟩ := exists_loopback
  obtain ⟨certificates, _⟩ := ofPem_eq_ok.mp read
  obtain ⟨modulus, exponent, _, published⟩ := exists_of_isRsa rsa
  exact ⟨⟨own.leaf, own.intermediates, key⟩, ofPem_eq_ok.mpr ⟨certificates, found⟩, rfl, modulus, exponent, published⟩

/-! ## Providers -/

namespace FileProvider

variable {provider : FileProvider} {tree later : Os.Files}

/-- Where the files of a provider read the same, so does its pair. -/
theorem certificate_congr (chain : later.read provider.chain = tree.read provider.chain)
    (key : later.read provider.key = tree.read provider.key) :
    provider.certificate later = provider.certificate tree := by
  have loads : provider.load later = provider.load tree := by
    rw [load, load, readFile, readFile, readFile, readFile, chain, key]
  rw [certificate, certificate, loads]

theorem load_of_read {chain key : Bytes} (chainRead : tree.read provider.chain = .ok chain)
    (keyRead : tree.read provider.key = .ok key) : provider.load tree = CertifiedKey.ofPem chain key := by
  rw [load, readFile, readFile, chainRead, keyRead]
  rfl

theorem certificate_of_load {pair : CertifiedKey} (loaded : provider.load tree = .ok pair) :
    (provider.certificate tree).1 = pair.key.check.1.map fun _ => pair := by
  rw [certificate, loaded]
  dsimp only
  rcases pair.key.check with ⟨fault | _, events⟩ <;> rfl

theorem certificate_eq_ok_iff {pair : CertifiedKey} :
    (provider.certificate tree).1 = .ok pair ↔ provider.load tree = .ok pair ∧ pair.key.check.1 = .ok () := by
  cases loaded : provider.load tree with
  | error fault =>
      rw [certificate, loaded]
      exact ⟨nofun, nofun⟩
  | ok found =>
      rw [certificate_of_load loaded]
      cases checked : found.key.check.1 with
      | error fault =>
          refine ⟨nofun, ?_⟩
          rintro ⟨⟨⟩, passes⟩
          cases checked.symm.trans passes
      | ok _ =>
          constructor
          · rintro ⟨⟩
            exact ⟨rfl, checked⟩
          · rintro ⟨⟨⟩, _⟩
            rfl

/-- A provider gives the pair that its files hold, if the key is large enough. -/
theorem certificate_of_read {chain key : Bytes} {pair : CertifiedKey}
    (chainRead : tree.read provider.chain = .ok chain) (keyRead : tree.read provider.key = .ok key)
    (read : CertifiedKey.ofPem chain key = .ok pair) (large : pair.key.check.1 = .ok ()) :
    (provider.certificate tree).1 = .ok pair :=
  certificate_eq_ok_iff.mpr ⟨(load_of_read chainRead keyRead).trans read, large⟩

end FileProvider

namespace Upgrader

variable {upgrader : Upgrader} {provider : FileProvider} {tree : Os.Files} {pair : CertifiedKey}

theorem select_of_certificate (configured : upgrader.provider = some provider)
    (gives : (provider.certificate tree).1 = .ok pair) : (upgrader.select tree).1 = pair := by
  rw [select, configured]
  dsimp only
  rcases given : provider.certificate tree with ⟨result, events⟩
  rw [given] at gives
  cases gives
  rfl

/-- What comes of showing a pair depends on whether its key belongs to its leaf. -/
theorem acceptor_fst (upgrader : Upgrader) (tree : Os.Files) :
    (upgrader.acceptor tree).1 =
      if (upgrader.select tree).1.key.public? = some (upgrader.select tree).1.leaf.publicKey then
        .ok (upgrader.select tree).1
      else .error (.unusable .keyMismatch) := by
  rw [acceptor]
  dsimp only
  rw [CertifiedKey.install]
  by_cases own : (upgrader.select tree).1.key.public? = some (upgrader.select tree).1.leaf.publicKey
  · rw [if_pos own, if_pos own]
  · rw [if_neg own, if_neg own]

/-- The pair that the provider gives is shown if its key belongs to its leaf, and only then. -/
theorem acceptor_of_certificate (configured : upgrader.provider = some provider)
    (gives : (provider.certificate tree).1 = .ok pair) :
    (upgrader.acceptor tree).1 =
      if pair.key.public? = some pair.leaf.publicKey then .ok pair else .error (.unusable .keyMismatch) := by
  rw [acceptor_fst, select_of_certificate configured gives]

end Upgrader

end LdapDecoy.Tls
