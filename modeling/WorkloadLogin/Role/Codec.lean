import WorkloadLogin.Role

/-! # Roles as JSON

Every member may be absent; a written role has all of them. Lifetimes are numbers of whole seconds
there, so that fractions of a second are not written. -/
namespace WorkloadLogin
open Json

namespace Network

def decode : Decoder Network := fun surplus v =>
  match Decode.text surplus v with
  | .error e => .error e
  | .ok s =>
    match parse? s with
    | some net => .ok net
    | none => Decode.fail .unreadable

end Network

namespace Role

def shape : Shape Role Role where
  blank := {}
  fields := [
    .of "bound_org_ids" Decode.listOfTexts fun r ss => { r with boundOrgIds := ss },
    .of "bound_space_ids" Decode.listOfTexts fun r ss => { r with boundSpaceIds := ss },
    .of "bound_app_ids" Decode.listOfTexts fun r ss => { r with boundAppIds := ss },
    .of "bound_instance_ids" Decode.listOfTexts fun r ss => { r with boundInstanceIds := ss },
    .of "token_bound_cidrs" (Decode.list Network.decode) fun r ns =>
      { r with tokenBoundCidrs := ns },
    .of "disable_ip_matching" Decode.bool fun r b => { r with disableIpMatching := b },
    .of "token_policies" Decode.listOfTexts fun r ss => { r with tokenPolicies := ss },
    .of "token_ttl" Duration.decodeSeconds fun r d => { r with tokenTtl := d },
    .of "token_max_ttl" Duration.decodeSeconds fun r d => { r with tokenMaxTtl := d },
    .of "token_period" Duration.decodeSeconds fun r d => { r with tokenPeriod := d }]
  close := .ok

def decode (v : Json) : Except DecodeError Role := shape.decode .refused v

def encode (r : Role) : Json :=
  .object [("bound_org_ids", .strings r.boundOrgIds), ("bound_space_ids", .strings r.boundSpaceIds),
    ("bound_app_ids", .strings r.boundAppIds), ("bound_instance_ids", .strings r.boundInstanceIds),
    ("token_bound_cidrs", .strings (r.tokenBoundCidrs.map Network.render)),
    ("disable_ip_matching", .bool r.disableIpMatching),
    ("token_policies", .strings r.tokenPolicies), ("token_ttl", r.tokenTtl.encodeSeconds),
    ("token_max_ttl", r.tokenMaxTtl.encodeSeconds), ("token_period", r.tokenPeriod.encodeSeconds)]

end Role
end WorkloadLogin
