import WorkloadLogin.Digest.Sha256
import WorkloadLogin.X509.Fault
import WorkloadLogin.X509.Issuance

/-! # Verification with X.509 certificates

A bundle holds the leaf of an instance and the CA certificate that issued it. The leaf names the
instance in its common name, its organization, space and application in organizational units, and
the address of its container in its alternative names. -/
namespace WorkloadLogin.X509
open Text

abbrev InstanceCertificate := WorkloadLogin.Certificate

/-- The blocks of a PEM text that are certificates; other blocks are passed over. -/
def pemCertificates (text : String) : Except Pem.Error (List InstanceCertificate) :=
  match Pem.parse text with
  | .error e => .error e
  | .ok blocks => .ok ((blocks.filter fun b => b.tag == "CERTIFICATE").map fun b => ⟨b.contents⟩)

def parse (c : InstanceCertificate) : Except Fault Certificate :=
  match Certificate.parse? c.der with
  | some c => .ok c
  | none => .error .unparseable

def extract (bundle : String) : Except Fault InstanceCertificates := do
  match pemCertificates bundle with
  | .error e => .error (.bundle e)
  | .ok [first, second] =>
    let firstIsCa := (← parse first).isCa
    let secondIsCa := (← parse second).isCa
    match firstIsCa, secondIsCa with
    | true, false => .ok ⟨first, second⟩
    | false, true => .ok ⟨second, first⟩
    | _, _ => .error .notPair
  | .ok cs => .error (.bundleCount cs.length)

/-- A signature in either base64 alphabet; an error is that of the standard one. -/
def decodeSignature (text : String) : Except Fault Bytes :=
  let bs := Bytes.utf8 (trimBlank text.toList)
  match Base64.decode .urlSafe bs with
  | .ok s => .ok s
  | .error _ =>
    match Base64.decode .standard bs with
    | .ok s => .ok s
    | .error e => .error (.signatureText e)

/-- The key that a certificate can sign logins with. -/
def signingKey? (c : InstanceCertificate) : Option Rsa.PublicKey :=
  (Certificate.parse? c.der).bind fun c => loginKey? c.key.encoded

def checkSignature (signature : String) (data : SignatureData) :
    Except Fault InstanceCertificate := do
  let signature ← decodeSignature signature
  match pemCertificates data.bundle with
  | .error e => .error (.bundle e)
  | .ok certificates =>
    let hash := Sha256.hash (Bytes.ofText data.message)
    let signer := certificates.find? fun c =>
      (signingKey? c).any fun k => signsLogin k hash signature
    match signer with
    | some c => .ok c
    | none => .error .unsigned

/-- Validity at a Unix second, both ends included. -/
def checkValidity (c : Certificate) (link : Link) (now : Int) : Except Fault Unit :=
  if now < c.validity.notBefore then .error (.notYetValid link)
  else if now > c.validity.notAfter then .error (.expired link)
  else .ok ()

/-- The certificates of all configured texts; one bad text makes all of them bad. -/
def rootsOf (caTexts : List String) : Except Pem.Error (List InstanceCertificate) :=
  (caTexts.mapM pemCertificates).map List.flatten

/-- A root vouches for an intermediate by being it or by having issued it while valid. -/
def vouches (signed : SignatureCheck) (root intermediate : InstanceCertificate)
    (parsed : Certificate) (now : Int) : Bool :=
  root == intermediate ||
    match Certificate.parse? root.der with
    | some r => (checkValidity r .root now).isOk && parsed.issuedBy signed r
    | none => false

/-- The chain over a check of the signatures of certificates. -/
def checkChainWith (signed : SignatureCheck) (caTexts : List String) (certs : InstanceCertificates)
    (signing : InstanceCertificate) (now : Timestamp) : Except Fault Unit := do
  if signing ≠ certs.identity then .error .signerNotIdentity
  match rootsOf caTexts with
  | .error e => .error (.roots e)
  | .ok roots =>
    if roots.isEmpty then .error .noRoots
    let identity ← parse certs.identity
    let intermediate ← parse certs.intermediate
    let now := now.instant.seconds
    checkValidity identity .identity now
    checkValidity intermediate .intermediate now
    if !identity.issuedBy signed intermediate then .error .notIssued
    if roots.any fun root => vouches signed root certs.intermediate intermediate now then .ok ()
    else .error .unknownAuthority

def checkChain (caTexts : List String) (certs : InstanceCertificates)
    (signing : InstanceCertificate) (now : Timestamp) : Except Fault Unit :=
  checkChainWith Certificate.signedUnder caTexts certs signing now

/-- The single value among the units that start with the unit's name and a colon. -/
def singleUnit (units : List String) (unit : UnitKind) : Except Fault String :=
  let mark := (unit.name ++ ":").toList
  let values := units.filterMap fun u =>
    if mark.isPrefixOf u.toList then some (String.ofList (u.toList.drop mark.length)) else none
  match values with
  | [] => .error (.noUnit unit)
  | [v] => if v.isEmpty then .error (.notOneUnit unit) else .ok v
  | _ => .error (.notOneUnit unit)

def singleAddress (c : Certificate) : Except Fault Ip :=
  match c.altNames? with
  | none => .error .altNames
  | some names =>
    match AltName.addresses names with
    | [] => .error .noAddress
    | [ip] => .ok ip
    | _ => .error .notOneAddress

/-- The text of the first common name, if it has any. -/
def instanceId? (subject : Name) : Option String :=
  ((subject.attributesOf Name.commonName).head?.bind Attribute.text?).filter fun s => !s.isEmpty

def identify (c : InstanceCertificate) : Except Fault Identity := do
  let c ← parse c
  match instanceId? c.subject with
  | none => .error .noInstanceId
  | some instanceId =>
    let units := (c.subject.attributesOf Name.organizationalUnit).filterMap Attribute.text?
    let orgId ← singleUnit units .organization
    let spaceId ← singleUnit units .space
    let appId ← singleUnit units .app
    let ip ← singleAddress c
    return ⟨instanceId, orgId, spaceId, appId, ip.render⟩

def verifierWith (signed : SignatureCheck) : Verifier where
  extract bundle := (extract bundle).mapError Fault.toVerifierFault
  checkSignature signature data := (checkSignature signature data).mapError Fault.toVerifierFault
  checkChain caTexts certs signing now :=
    (checkChainWith signed caTexts certs signing now).mapError Fault.toVerifierFault
  identify c := (identify c).mapError Fault.toVerifierFault

abbrev verifier : Verifier := verifierWith Certificate.signedUnder

end WorkloadLogin.X509
