import ComposeKube.Api.Semantic
import ComposeKube.Convert.Pod
import ComposeKube.StackResources.State

/-!
# Workloads

`deployment.go`, `stateful-set.go` and `daemon-set.go`, and from `stack.go` the
expected generation: the annotation by which a later run recognises an object
that nobody has touched since.
-/

namespace ComposeKube

open Go

/-! ## Deployments -/

/-- `isGlobal`. -/
def isGlobal (srv : Latest.ServiceConfig) : Bool := srv.deploy.mode = "global"

/-- `toReplicas`. -/
def toReplicas (replicas : Option UInt64) : Option Int32 :=
  some (match replicas with
    | none => 1
    | some replicas => toInt32 replicas)

def revisionHistoryLimit : Int32 := 3

/-- The selector of a workload. -/
def matchLabelsSelector (labelSelector : Map String) : LabelSelector :=
  { (default : LabelSelector) with matchLabels := some labelSelector }

/-- The parallelism of the update config, if both are there. -/
def updateParallelism (s : Latest.ServiceConfig) : Option UInt64 :=
  s.deploy.updateConfig.bind (·.parallelism)

/-- `toDeploymentStrategy`. -/
def toDeploymentStrategy (s : Latest.ServiceConfig) (original : DeploymentStrategy) :
    DeploymentStrategy :=
  match updateParallelism s with
  -- whatever the cluster has is kept
  | none => original
  | some parallelism =>
    { type := .rollingUpdate
      rollingUpdate := some
        { maxUnavailable := some (.int (toInt32 parallelism)), maxSurge := none } }

/-- `toDeployment`. -/
def toDeployment (s : Latest.ServiceConfig) (objectMeta : ObjectMeta)
    (podTemplate : PodTemplateSpec) (labelSelector : Map String) (original : Deployment) :
    Deployment :=
  { original with
    objectMeta := objectMeta
    spec := { original.spec with
      replicas := toReplicas s.deploy.replicas
      revisionHistoryLimit := some revisionHistoryLimit
      template := forceRestartPolicy podTemplate .always
      strategy := toDeploymentStrategy s original.spec.strategy
      selector := some (matchLabelsSelector labelSelector) } }

/-! ## StatefulSets -/

/-- `toStatefulSetUpdateStrategy`. -/
def toStatefulSetUpdateStrategy (s : Latest.ServiceConfig) (original : StatefulSetUpdateStrategy) :
    StatefulSetUpdateStrategy :=
  match updateParallelism s with
  | none => original
  | some parallelism =>
    { type := .rollingUpdate
      rollingUpdate := some { partition := some (toInt32 parallelism) } }

/-- `toStatefulSet`. -/
def toStatefulSet (s : Latest.ServiceConfig) (objectMeta : ObjectMeta)
    (podTemplate : PodTemplateSpec) (labelSelector : Map String) (original : StatefulSet) :
    StatefulSet :=
  { original with
    objectMeta := objectMeta
    spec := { original.spec with
      replicas := toReplicas s.deploy.replicas
      revisionHistoryLimit := some revisionHistoryLimit
      template := forceRestartPolicy podTemplate .always
      updateStrategy := toStatefulSetUpdateStrategy s original.spec.updateStrategy
      volumeClaimTemplates := toPersistentVolumeClaims s original.spec.volumeClaimTemplates
      selector := some (matchLabelsSelector labelSelector) } }

/-! ## DaemonSets -/

/-- `toDaemonSet`: the one workload whose restart policy is not forced. -/
def toDaemonSet (objectMeta : ObjectMeta) (podTemplate : PodTemplateSpec)
    (labelSelector : Map String) (original : DaemonSet) : DaemonSet :=
  { original with
    objectMeta := objectMeta
    spec := { original.spec with
      template := podTemplate
      selector := some (matchLabelsSelector labelSelector) } }

/-! ## The expected generation -/

def expectedGenerationAnnotation : String := "com.docker.stack.expected-generation"

/-- `generationMatchesExpected`. -/
def generationMatchesExpected (m : ObjectMeta) : Bool :=
  -- an object that was never stored
  if m.generation < 1 then false
  else
    match m.annotations with
    | none => false
    | some annotations =>
      match annotations.lookup expectedGenerationAnnotation with
      | none => false
      | some expected =>
        match parseInt64 expected with
        | none => false
        | some expectedValue => expectedValue = m.generation

/-- `setExpectedGeneration`, given whether the compared values are equal. -/
def setExpectedGeneration (originalMeta objectMeta : ObjectMeta) (same : Bool) : ObjectMeta :=
  -- an update that changes anything raises the generation by one
  let expected := if !same then originalMeta.generation + 1 else originalMeta.generation
  { objectMeta with
    annotations := some (objectMeta.annotations.entries.insert expectedGenerationAnnotation
      (formatInt expected.toInt)) }

/-- A zero object, which stands for a missing one, never matches. -/
theorem generationMatchesExpected_default :
    generationMatchesExpected (default : ObjectMeta) = false := by
  decide

end ComposeKube
