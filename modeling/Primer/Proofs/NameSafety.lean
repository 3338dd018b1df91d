import Primer.Proofs.Names

/-!
# The safety of names

In a run of an accepted program a name that is used is bound, with the type that the check found for
it. Two things that the check lets pass stand against this. The update of a loop may declare a name:
the check takes it before the body, the run after it. And an array may be declared in a block with a
name that stands around it, where it takes the place of that name in the one store of the run. In both
cases only the uses that resolve to the declaration in question are affected; two blocks beside each
other may declare a name with different types.
-/

namespace Primer

namespace Program

variable {p : Program}

/-! ## Definedness -/

end Program

end Primer
