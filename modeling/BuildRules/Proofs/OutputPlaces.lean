import BuildRules.Proofs.OutputArtifacts
import BuildRules.Proofs.PathComponents

/-!
# Where outputs lie

The labels of outputs are distinct, but what tells artifacts apart is their root and
their path. Two outputs can share a path, when they belong to nested packages. Two
configurations share their roots when they have one mnemonic, and bin and genfiles roots
are never the same. So two outputs lie at one place exactly when all three coincide: the
path, the mnemonic and the kind of the root.
-/

set_option autoImplicit false

namespace BuildRules

/-! ## Roots of configurations -/

namespace Workspace

end Workspace

end BuildRules
