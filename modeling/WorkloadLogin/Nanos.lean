/-! # Parts of a second

What is left of a time beside whole seconds, in nanoseconds. -/
namespace WorkloadLogin

abbrev Nanos := Fin 1000000000

namespace Nanos

def zero : Nanos := ⟨0, by decide⟩

/-- What is left of so many nanoseconds beside whole seconds. -/
def ofNat (n : Nat) : Nanos := ⟨n % 1000000000, Nat.mod_lt n (by decide)⟩

end Nanos
end WorkloadLogin
