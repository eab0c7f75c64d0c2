import WorkloadLogin.Encoding.Der

/-! # Trust anchors

A certificate becomes an anchor of trust by its owner's word, so that its times and keys do not
matter here. What is read has exactly one encoding, nothing follows it, and no element is longer
than two octets of length allow. -/
namespace WorkloadLogin.X509.TrustAnchor

/-- The contents of an element with that first octet, and what follows it. -/
abbrev Read (α : Type) := Bytes → Option (α × Bytes)

def lengthBound : Nat := 0xFFFF

def element (tag : Der.Tag) : Read Der.Element := fun bs => do
  let (e, rest) ← Der.readExact bs
  if e.tag = tag ∧ e.contents.length < lengthBound then some (e, rest) else none

def plain (number : Nat) : Read Der.Element := element ⟨0, false, number⟩

def sequence : Read Der.Element := element ⟨0, true, Der.sequenceTag⟩

/-- The contents of a field that has a number of its own. -/
def field (number : Nat) : Read Der.Element := element ⟨2, true, number⟩

/-- What `read` makes of a whole string of octets. -/
def whole {α : Type} (read : Read α) (bs : Bytes) : Option α :=
  match read bs with
  | some (a, []) => some a
  | _ => none

/-- One element after another up to the end, at least one. -/
def each {α : Type} (one : Read α) : (most : Nat) → Bytes → Option (List α)
  | 0, _ => none
  | most + 1, bs => do
    let (a, rest) ← one bs
    if rest.isEmpty then return [a] else return a :: (← each one most rest)

structure Extension where
  id : Bytes
  critical : Bool
  value : Bytes
  deriving DecidableEq, Repr

/-- A truth value that may be left out where it is false. -/
def readCritical (bs : Bytes) : Option (Bool × Bytes) :=
  match bs with
  | 1 :: _ => do
    let (e, rest) ← plain Der.boolTag bs
    match e.contents with
    | [0xFF] => some (true, rest)
    | [0] => some (false, rest)
    | _ => none
  | _ => some (false, bs)

def readExtension : Read Extension := fun bs => do
  let (e, rest) ← sequence bs
  let (id, c) ← plain Der.oidTag e.contents
  let (critical, c) ← readCritical c
  let value ← whole (plain Der.octetStringTag) c
  return (⟨id.contents, critical, value.contents⟩, rest)

/-- The last octet of the identifiers of extensions that are looked into. -/
def keyUsage : UInt8 := 15

/-- Alternative names, basic and name constraints, revocation lists and further key usage. -/
def sequenceExtensions : List UInt8 := [17, 19, 30, 31, 37]

/-- The number of an extension that is looked into. -/
def Extension.number? (x : Extension) : Option UInt8 :=
  match x.id with
  | [0x55, 0x1D, n] => if n = keyUsage ∨ sequenceExtensions.contains n then some n else none
  | _ => none

/-- An extension that is looked into must have its form; another one must not be critical. -/
def Extension.isSound (x : Extension) : Bool :=
  match x.number? with
  | some n => n == keyUsage || (whole sequence x.value).isSome
  | none => !x.critical

def extensionsAreSound (xs : List Extension) : Bool :=
  let numbers := xs.filterMap Extension.number?
  xs.all Extension.isSound && numbers.eraseDups.length == numbers.length

/-- Issuer, validity, subject and key, each whatever it holds. -/
def skipParties (bs : Bytes) : Option Bytes := do
  let (_, bs) ← sequence bs
  let (_, bs) ← sequence bs
  let (_, bs) ← sequence bs
  let (_, bs) ← sequence bs
  return bs

/-- The third version is number two. -/
def versionMark : Bytes := [2, 1, 2]

/-- The signed part of a certificate of the third version, which names its signature algorithm. -/
def isThirdVersion (tbs algorithm : Bytes) : Bool :=
  let read : Option Bool := do
    let (version, c) ← field 0 tbs
    if version.contents ≠ versionMark then none
    let (_, c) ← plain Der.integerTag c
    let (inner, c) ← sequence c
    if inner.contents ≠ algorithm then none
    let c ← skipParties c
    if c.isEmpty then return true
    let body ← whole (field 3) c
    let list ← whole sequence body.contents
    return extensionsAreSound (← each readExtension list.contents.length list.contents)
  read.getD false

/-- The signed part of a certificate of the first version, which has no extensions. -/
def isFirstVersion (tbs : Bytes) : Bool :=
  let read : Option Bytes := do
    let (_, c) ← plain Der.integerTag tbs
    let (_, c) ← sequence c
    skipParties c
  read == some []

/-- Whether a certificate can be an anchor of trust. Signatures are whole octets where a version is
named. -/
def accepts (der : Bytes) : Bool :=
  let read : Option Bool := do
    let outer ← whole sequence der
    let (tbs, c) ← sequence outer.contents
    let (algorithm, c) ← sequence c
    let signature ← whole (plain Der.bitStringTag) c
    return isFirstVersion tbs.contents ||
      (signature.contents.head? == some 0 && isThirdVersion tbs.contents algorithm.contents)
  read.getD false

end WorkloadLogin.X509.TrustAnchor
