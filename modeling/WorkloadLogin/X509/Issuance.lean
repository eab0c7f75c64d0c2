import WorkloadLogin.Signature.Ecdsa
import WorkloadLogin.Signature.Ed25519
import WorkloadLogin.Signature.Rsa
import WorkloadLogin.X509.Certificate

/-! # Issuance and keys

Which algorithm verifies a certificate is decided by the certificate, under the key of its issuer.
A login is verified under the RSA key of a certificate. -/
namespace WorkloadLogin.X509

/-- The algorithms that certificates are signed with. -/
inductive IssuerAlgorithm where
  | rsa (digest : Digest)
  | rsaPss (digest : Digest)
  | ecdsa (digest : Digest)
  | ed25519
  deriving DecidableEq, Repr

def rsaArc : Bytes := [0x2a, 0x86, 0x48, 0x86, 0xf7, 0x0d, 0x01, 0x01]

def rsaEncryption : Bytes := rsaArc ++ [1]

/-- SHA-1 with RSA under its older name. -/
def olderSha1WithRsa : Bytes := [0x2b, 0x0e, 0x03, 0x02, 0x1d]

def ecdsaWithSha2Arc : Bytes := [0x2a, 0x86, 0x48, 0xce, 0x3d, 0x04, 0x03]

def ed25519Id : Bytes := [0x2b, 0x65, 0x70]

def curveP256 : Bytes := [0x2a, 0x86, 0x48, 0xce, 0x3d, 0x03, 0x01, 0x07]

def curveP384 : Bytes := [0x2b, 0x81, 0x04, 0x00, 0x22]

/-- The hash functions named by themselves. -/
def sha2Arc : Bytes := [0x60, 0x86, 0x48, 0x01, 0x65, 0x03, 0x04, 0x02]

/-- The digest that parameters of PSS name. None are taken for SHA-1, which PSS is not verified
with; what else they say has to read and does not matter. -/
def AlgorithmId.pssDigest? (a : AlgorithmId) : Option Digest := do
  let p ← a.parameters
  if p.tag.number ≠ Der.sequenceTag then none
  let (digest, c) ← optional 0 AlgorithmId.read p.contents
  let (_, c) ← optional 1 AlgorithmId.read c
  let (_, c) ← optional 2 natural c
  let (_, _) ← optional 3 natural c
  let digest ← digest
  if digest.oid = sha2Arc ++ [1] then some .sha256
  else if digest.oid = sha2Arc ++ [2] then some .sha384
  else if digest.oid = sha2Arc ++ [3] then some .sha512
  else none

def IssuerAlgorithm.of? (a : AlgorithmId) : Option IssuerAlgorithm :=
  if a.oid = rsaArc ++ [5] ∨ a.oid = olderSha1WithRsa then some (.rsa .sha1)
  else if a.oid = rsaArc ++ [11] then some (.rsa .sha256)
  else if a.oid = rsaArc ++ [12] then some (.rsa .sha384)
  else if a.oid = rsaArc ++ [13] then some (.rsa .sha512)
  else if a.oid = rsaArc ++ [10] then a.pssDigest?.map .rsaPss
  else if a.oid = ecdsaWithSha2Arc ++ [2] then some (.ecdsa .sha256)
  else if a.oid = ecdsaWithSha2Arc ++ [3] then some (.ecdsa .sha384)
  else if a.oid = ed25519Id then some .ed25519
  else none

def PublicKeyInfo.curve? (k : PublicKeyInfo) : Option Ecdsa.Curve :=
  k.algorithm.parameters.bind fun p =>
    if p.contents = curveP256 then some Ecdsa.p256
    else if p.contents = curveP384 then some Ecdsa.p384
    else none

/-- Whether a message is signed under a key. -/
def IssuerAlgorithm.verify (a : IssuerAlgorithm) (key : PublicKeyInfo) (message signature : Bytes) :
    Bool :=
  match a with
  | rsa d => Rsa.verifyBlock d key.keyBits message signature
  | rsaPss d => Rsa.verifyCertificatePss d key.keyBits message signature
  | ecdsa d => key.curve?.any fun curve => curve.verify d key.keyBits message signature
  | ed25519 => Ed25519.verify key.keyBits message signature

/-- Whether the certificate's signature verifies under a key. -/
def Certificate.signedUnder (c : Certificate) (key : PublicKeyInfo) : Bool :=
  (IssuerAlgorithm.of? c.signatureAlgorithm).any fun a => a.verify key c.signedPart c.signature

/-- A way to tell whether a certificate's signature verifies under a key. -/
abbrev SignatureCheck := Certificate → PublicKeyInfo → Bool

/-- The issuer has the name that the certificate gives and the key that signed it. -/
def Certificate.issuedBy (signed : SignatureCheck) (c issuer : Certificate) : Bool :=
  c.issuer.encoded == issuer.subject.encoded && signed c issuer.key

/-- An RSA key in a key structure that is exact to the last octet: at most 4096 bits, an odd
modulus, and an odd exponent from two to 2^33 - 1 below it. -/
def loginKey? (spki : Bytes) : Option Rsa.PublicKey := do
  let (body, rest) ← Der.readSequence spki
  let (algorithm, body) ← Der.readSequence body
  let (type, parameters) ← Der.readPlain Der.oidTag algorithm
  let (null, afterNull) ← Der.readPlain Der.nullTag parameters
  let (bits, afterBits) ← Der.readPlain Der.bitStringTag body
  if !rest.isEmpty || !afterBits.isEmpty || !afterNull.isEmpty || !null.isEmpty then none
  if type ≠ rsaEncryption ∨ bits.head? ≠ some 0 then none
  let (n, e) ← Der.readNaturalPair (bits.drop 1)
  let k : Rsa.PublicKey := ⟨n, e⟩
  if k.bits ≤ 4096 ∧ e < n ∧ n % 2 = 1 ∧ e % 2 = 1 ∧ 2 ≤ e ∧ e < 0x200000000 then some k else none

/-- The longest salt that a key allows and one of the digest's size. -/
def saltLengths (k : Rsa.PublicKey) : List Nat := [Rsa.encodedLength k - 34, 32]

/-- Whether the key verifies a login signature over a message of that hash. -/
def signsLogin (k : Rsa.PublicKey) (hash signature : Bytes) : Bool :=
  (saltLengths k).any fun n => Rsa.verifyPss k n hash signature

end WorkloadLogin.X509
