import ComposeKube.Api.Compose

/-!
# Semantic equality

`apiequality.Semantic.DeepEqual` takes nil and empty containers for the same
and compares quantities as numbers. It is equality of representatives: `canon`
maps every value to the one representative of the values it is equal to.
-/

namespace ComposeKube

open Go

/-! ## Representatives, struct by struct -/

namespace Semantic

/-- `Quantity.Cmp` looks at the number only. -/
def quantity (q : Quantity) : Quantity := { q with encoding := "" }

def resourceRequirements (r : ResourceRequirements) : ResourceRequirements :=
  { limits := r.limits.canon quantity, requests := r.requests.canon quantity }

def objectMeta (m : ObjectMeta) : ObjectMeta :=
  { m with
    labels := m.labels.canon id
    annotations := m.annotations.canon id
    ownerReferences := m.ownerReferences.canon id }

def labelSelector (s : LabelSelector) : LabelSelector :=
  { s with matchLabels := s.matchLabels.canon id }

def probe (p : Probe) : Probe := { p with exec := p.exec.map fun c => c.canon id }

def capabilities (c : Capabilities) : Capabilities :=
  { add := c.add.canon id, drop := c.drop.canon id }

def securityContext (s : SecurityContext) : SecurityContext :=
  { s with capabilities := s.capabilities.map capabilities }

def container (c : Container) : Container :=
  { c with
    command := c.command.canon id
    args := c.args.canon id
    ports := c.ports.canon id
    env := c.env.canon id
    resources := resourceRequirements c.resources
    volumeMounts := c.volumeMounts.canon id
    livenessProbe := c.livenessProbe.map probe
    securityContext := c.securityContext.map securityContext }

def volumeSource : VolumeSource → VolumeSource
  | .secret name items => .secret name (items.canon id)
  | .configMap name items => .configMap name (items.canon id)
  | source => source

def volume (v : Volume) : Volume := { v with volumeSource := volumeSource v.volumeSource }

def nodeSelectorRequirement (r : NodeSelectorRequirement) : NodeSelectorRequirement :=
  { r with values := r.values.canon id }

def nodeSelectorTerm (t : NodeSelectorTerm) : NodeSelectorTerm :=
  { t with matchExpressions := t.matchExpressions.canon nodeSelectorRequirement }

def affinity (a : Affinity) : Affinity :=
  { a with requiredNodeSelectorTerms :=
      a.requiredNodeSelectorTerms.map fun ts => ts.canon nodeSelectorTerm }

def hostAlias (a : HostAlias) : HostAlias := { a with hostnames := a.hostnames.canon id }

def podSpec (s : PodSpec) : PodSpec :=
  { s with
    volumes := s.volumes.canon volume
    initContainers := s.initContainers.canon container
    containers := s.containers.canon container
    imagePullSecrets := s.imagePullSecrets.canon id
    affinity := s.affinity.map affinity
    tolerations := s.tolerations.canon id
    hostAliases := s.hostAliases.canon hostAlias }

def podTemplateSpec (t : PodTemplateSpec) : PodTemplateSpec :=
  { objectMeta := objectMeta t.objectMeta, spec := podSpec t.spec }

def deploymentSpec (s : DeploymentSpec) : DeploymentSpec :=
  { s with selector := s.selector.map labelSelector, template := podTemplateSpec s.template }

def persistentVolumeClaim (c : PersistentVolumeClaim) : PersistentVolumeClaim :=
  { c with
    objectMeta := objectMeta c.objectMeta
    spec := { c.spec with
      accessModes := c.spec.accessModes.canon id
      resources := resourceRequirements c.spec.resources } }

def statefulSetSpec (s : StatefulSetSpec) : StatefulSetSpec :=
  { s with
    selector := s.selector.map labelSelector
    template := podTemplateSpec s.template
    volumeClaimTemplates := s.volumeClaimTemplates.canon persistentVolumeClaim }

def daemonSetSpec (s : DaemonSetSpec) : DaemonSetSpec :=
  { s with selector := s.selector.map labelSelector, template := podTemplateSpec s.template }

/-! ## Stacks -/

def fileObjectConfig (c : Latest.FileObjectConfig) : Latest.FileObjectConfig :=
  { c with labels := c.labels.canon id }

def constraints (c : Latest.Constraints) : Latest.Constraints :=
  { c with matchLabels := c.matchLabels.canon id }

def deployConfig (d : Latest.DeployConfig) : Latest.DeployConfig :=
  { d with
    labels := d.labels.canon id
    placement := { constraints := d.placement.constraints.map constraints } }

def healthCheckConfig (h : Latest.HealthCheckConfig) : Latest.HealthCheckConfig :=
  { h with test := h.test.canon id }

def serviceConfig (s : Latest.ServiceConfig) : Latest.ServiceConfig :=
  { s with
    capAdd := s.capAdd.canon id
    capDrop := s.capDrop.canon id
    command := s.command.canon id
    configs := s.configs.canon id
    deploy := deployConfig s.deploy
    entrypoint := s.entrypoint.canon id
    environment := s.environment.canon id
    extraHosts := s.extraHosts.canon id
    healthCheck := s.healthCheck.map healthCheckConfig
    labels := s.labels.canon id
    ports := s.ports.canon id
    secrets := s.secrets.canon id
    tmpfs := s.tmpfs.canon id
    volumes := s.volumes.canon id
    internalPorts := s.internalPorts.canon id }

def stackSpec (s : Latest.StackSpec) : Latest.StackSpec :=
  { services := s.services.canon serviceConfig
    secrets := s.secrets.canon fileObjectConfig
    configs := s.configs.canon fileObjectConfig }

def impersonationConfig (c : ImpersonationConfig) : ImpersonationConfig :=
  { c with groups := c.groups.canon id, extra := c.extra.canon fun groups => groups.canon id }

def internalStackSpec (s : Internal.StackSpec) : Internal.StackSpec :=
  { s with stack := s.stack.map stackSpec, owner := impersonationConfig s.owner }

end Semantic

/-! ## The comparison -/

/-- `apiequality.Semantic.DeepEqual` at a type with the given representatives. -/
def semanticDeepEqual {α : Type} [DecidableEq α] (canon : α → α) (x y : α) : Bool :=
  canon x = canon y

@[simp] theorem semanticDeepEqual_self {α : Type} [DecidableEq α] (canon : α → α) (x : α) :
    semanticDeepEqual canon x x = true := by
  simp [semanticDeepEqual]

/-- What the representatives are told apart by. -/
theorem semanticDeepEqual_eq_false {α β : Type} [DecidableEq α] {canon : α → α} {x y : α}
    (part : α → β) (h : part (canon x) ≠ part (canon y)) : semanticDeepEqual canon x y = false :=
  decide_eq_false fun heq => h (congrArg part heq)

end ComposeKube
