import WorkloadLogin.Address.Network
import WorkloadLogin.Credential

/-! # Roles

A role says which instances may log in under it and what their credentials are limited to. A bound
list that is empty binds nothing. -/
namespace WorkloadLogin

structure Role where
  boundOrgIds : List String := []
  boundSpaceIds : List String := []
  boundAppIds : List String := []
  boundInstanceIds : List String := []
  /-- Networks a caller must connect from. -/
  tokenBoundCidrs : List Network := []
  /-- The caller's address need not be the one the certificate names. -/
  disableIpMatching : Bool := false
  tokenPolicies : List String := []
  tokenTtl : Duration := {}
  tokenMaxTtl : Duration := {}
  tokenPeriod : Duration := {}
  deriving DecidableEq, Repr, Inhabited

namespace Role

/-- The token block of a credential that is issued now. -/
def tokenParams (role : Role) : TokenParams where
  policies := role.tokenPolicies
  ttl := role.tokenTtl
  maxTtl := role.tokenMaxTtl
  period := role.tokenPeriod
  boundCidrs := role.tokenBoundCidrs.map Network.render

def populate (role : Role) (c : Credential) : Credential := { c with token := role.tokenParams }

/-- Lifetimes follow the role; policies and networks stay as issued. -/
def refresh (role : Role) (t : TokenParams) : TokenParams :=
  { t with
    ttl := role.tokenTtl
    maxTtl := role.tokenMaxTtl
    period := role.tokenPeriod }

end Role
end WorkloadLogin
