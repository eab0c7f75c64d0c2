import WorkloadLogin.Config
import WorkloadLogin.Role.Codec

/-! # Configuration as JSON

A secret is a text or `null`; an empty one counts as none. -/
namespace WorkloadLogin
open Json

def Json.Decode.secret : Decoder (Option String) := fun surplus v =>
  (optional text surplus v).map fun s => s.filter fun s => !s.isEmpty

namespace Config

def shape : Shape Config Config where
  blank := {}
  fields := [
    .of "identity_ca_certificates" Decode.listOfTexts fun c ss =>
      { c with identityCaCertificates := ss },
    .of "cf_api_addr" Decode.text fun c s => { c with apiAddress := s },
    .of "cf_username" Decode.text fun c s => { c with username := s },
    .of "cf_password" Decode.secret fun c s => { c with password := s },
    .of "cf_client_id" Decode.text fun c s => { c with clientId := s },
    .of "cf_client_secret" Decode.secret fun c s => { c with clientSecret := s },
    .of "cf_api_trusted_certificates" Decode.listOfTexts fun c ss =>
      { c with apiTrustedCertificates := ss },
    .of "cf_timeout_secs" Decode.word64 fun c n => { c with timeoutSecs := n },
    .of "login_max_seconds_not_before" Decode.word64 fun c n => { c with maxSecondsNotBefore := n },
    .of "login_max_seconds_not_after" Decode.word64 fun c n => { c with maxSecondsNotAfter := n }]
  close := .ok

def decode (v : Json) : Except DecodeError Config := shape.decode .refused v

end Config

namespace ModuleConfig

def shape : Shape ModuleConfig ModuleConfig where
  blank := {}
  fields := [
    .of "backend" (Decode.optional Config.shape.decode) fun c b => { c with backend := b },
    .of "roles" (Decode.dictionary Role.shape.decode) fun c rs => { c with roles := rs }]
  close := .ok

def decode (v : Json) : Except DecodeError ModuleConfig := shape.decode .refused v

end ModuleConfig
end WorkloadLogin
