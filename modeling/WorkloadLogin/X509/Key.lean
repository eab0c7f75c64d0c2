import WorkloadLogin.X509.Field

/-! # Algorithms and public keys -/
namespace WorkloadLogin.X509

structure AlgorithmId where
  oid : Bytes
  parameters : Option Der.Element
  deriving DecidableEq, Repr

/-- Parameters whose header does not read are left out. -/
def AlgorithmId.read : Read AlgorithmId := fun bs => do
  let (e, rest) ← sequence bs
  let (type, c) ← X509.oid e.contents
  if (Der.readHeader c).isNone then return (⟨type, none⟩, rest)
  let (p, _) ← Der.read c
  return (⟨type, some p⟩, rest)

structure PublicKeyInfo where
  algorithm : AlgorithmId
  keyBits : Bytes
  /-- The octets from the start of the structure to the end of the key. -/
  encoded : Bytes
  deriving DecidableEq, Repr

def PublicKeyInfo.read : Read PublicKeyInfo := fun bs => do
  let (e, rest) ← sequence bs
  let (algorithm, c) ← AlgorithmId.read e.contents
  let (keyBits, unread) ← bitString c
  let encoded := e.header ++ e.contents.take (e.contents.length - unread.length)
  return (⟨algorithm, keyBits, encoded⟩, rest)

end WorkloadLogin.X509
