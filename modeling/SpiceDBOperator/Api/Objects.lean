import SpiceDBOperator.Golang.Values

/-!
# Kubernetes objects

Two families of records. The *apply configurations* are what the operator builds and sends
(`k8s.io/client-go/applyconfigurations`); their optional fields are pointers. The *live* objects are what it
reads back from its informers. Only the fields that some builder sets or some handler reads are here.

The `With…` methods of an apply configuration are parameters (`ApplyMethods`). They create the metadata record when it
is nil, so a nil metadata record is the empty one.
-/

namespace SpiceDBOperator

open Golang

/-- `metav1.ConditionStatus` and `corev1.ConditionStatus`. -/
inductive ConditionStatus where
  | true
  | false
  | unknown
deriving DecidableEq, Repr

/-! ## Apply configurations -/

structure TypeMeta where
  kind : Option String := none
  apiVersion : Option String := none
deriving DecidableEq, Repr

structure OwnerReference where
  name : String
  kind : String
  apiVersion : String
  uid : String
deriving DecidableEq, Repr

structure ObjectMeta where
  name : Option String := none
  nameSpace : Option String := none
  labels : GoMap String := ∅
  annotations : GoMap String := ∅
  ownerReferences : List OwnerReference := []

inductive IntOrString where
  | int (n : Int)
  | string (s : String)
deriving DecidableEq, Repr

structure LabelSelector where
  matchLabels : GoMap String := ∅

/-- The `With…` methods. They add to what is there: labels and annotations are merged key by key, owner references are
appended, other fields are replaced. -/
structure ApplyMethods where
  withName : String → ObjectMeta → ObjectMeta
  withNamespace : String → ObjectMeta → ObjectMeta
  withLabels : GoMap String → ObjectMeta → ObjectMeta
  withAnnotations : GoMap String → ObjectMeta → ObjectMeta
  withOwnerReferences : OwnerReference → ObjectMeta → ObjectMeta
  withMatchLabels : GoMap String → LabelSelector → LabelSelector
  withName_eq : ∀ name m, withName name m = { m with name := some name }
  withNamespace_eq : ∀ nameSpace m, withNamespace nameSpace m = { m with nameSpace := some nameSpace }
  withLabels_eq : ∀ entries m, withLabels entries m = { m with labels := mergeInto m.labels entries }
  withAnnotations_eq : ∀ entries m, withAnnotations entries m =
    { m with annotations := mergeInto m.annotations entries }
  withOwnerReferences_eq : ∀ ref m, withOwnerReferences ref m = { m with ownerReferences := m.ownerReferences ++ [ref] }
  withMatchLabels_eq : ∀ entries s, withMatchLabels entries s =
    { s with matchLabels := mergeInto s.matchLabels entries }

attribute [simp] ApplyMethods.withName_eq ApplyMethods.withNamespace_eq ApplyMethods.withLabels_eq
  ApplyMethods.withAnnotations_eq ApplyMethods.withOwnerReferences_eq ApplyMethods.withMatchLabels_eq

def plainApplyMethods : ApplyMethods where
  withName name m := { m with name := some name }
  withNamespace nameSpace m := { m with nameSpace := some nameSpace }
  withLabels entries m := { m with labels := mergeInto m.labels entries }
  withAnnotations entries m := { m with annotations := mergeInto m.annotations entries }
  withOwnerReferences ref m := { m with ownerReferences := m.ownerReferences ++ [ref] }
  withMatchLabels entries s := { s with matchLabels := mergeInto s.matchLabels entries }
  withName_eq _ _ := rfl
  withNamespace_eq _ _ := rfl
  withLabels_eq _ _ := rfl
  withAnnotations_eq _ _ := rfl
  withOwnerReferences_eq _ _ := rfl
  withMatchLabels_eq _ _ := rfl

structure SecretKeySelector where
  name : String
  key : String
  «optional» : Option Bool := none
deriving DecidableEq, Repr

inductive EnvVarSource where
  | fieldRef (fieldPath : String)
  | secretKeyRef (selector : SecretKeySelector)
deriving DecidableEq, Repr

structure EnvVar where
  name : String
  value : Option String := none
  valueFrom : Option EnvVarSource := none
deriving DecidableEq, Repr

inductive VolumeSource where
  /-- Pairs of a path and the field projected to it. -/
  | downwardAPI (items : List (String × String))
  /-- Pairs of a key and its path. -/
  | secret (defaultMode : Int) (secretName : String) (items : List (String × String))
deriving DecidableEq, Repr

structure Volume where
  name : String
  source : VolumeSource
deriving DecidableEq, Repr

structure VolumeMount where
  name : String
  mountPath : String
  readOnly : Option Bool := none
deriving DecidableEq, Repr

/-- A named port of a container or a service. -/
structure Port where
  name : String
  port : Nat
deriving DecidableEq, Repr

structure Probe where
  command : List String
  initialDelaySeconds : Option Int := none
  failureThreshold : Int
  periodSeconds : Int
  timeoutSeconds : Int
deriving DecidableEq, Repr

structure Container where
  name : String
  image : String
  command : List String
  env : List EnvVar
  ports : List Port
  livenessProbe : Option Probe := none
  readinessProbe : Option Probe := none
  volumeMounts : List VolumeMount
  terminationMessagePolicy : String
deriving DecidableEq, Repr

structure PodSpec where
  serviceAccountName : String
  containers : List Container
  volumes : List Volume
  restartPolicy : Option String := none
deriving DecidableEq, Repr

structure PodTemplateSpec where
  metadata : ObjectMeta := {}
  spec : Option PodSpec := none

structure PolicyRule where
  apiGroups : List String
  resources : List String
  verbs : List String
deriving DecidableEq, Repr

structure ServiceAccountApply where
  typeMeta : TypeMeta
  metadata : ObjectMeta

structure RoleApply where
  typeMeta : TypeMeta
  metadata : ObjectMeta
  rules : List PolicyRule := []

structure RoleRef where
  kind : String
  name : String
deriving DecidableEq, Repr

structure Subject where
  nameSpace : String
  kind : String
  name : String
deriving DecidableEq, Repr

structure RoleBindingApply where
  typeMeta : TypeMeta
  metadata : ObjectMeta
  roleRef : Option RoleRef := none
  subjects : List Subject := []

structure ServiceSpec where
  selector : GoMap String
  ports : List Port

structure ServiceApply where
  typeMeta : TypeMeta
  metadata : ObjectMeta
  spec : Option ServiceSpec := none

structure JobSpec where
  template : Option PodTemplateSpec := none

structure JobApply where
  typeMeta : TypeMeta
  metadata : ObjectMeta
  spec : Option JobSpec := none

structure DeploymentStrategy where
  type : String
  maxUnavailable : IntOrString
deriving DecidableEq, Repr

structure DeploymentSpec where
  replicas : Option Int := none
  strategy : Option DeploymentStrategy := none
  selector : Option LabelSelector := none
  template : Option PodTemplateSpec := none

structure DeploymentApply where
  typeMeta : TypeMeta
  metadata : ObjectMeta
  spec : Option DeploymentSpec := none

structure PodDisruptionBudgetSpec where
  selector : Option LabelSelector := none
  maxUnavailable : Option IntOrString := none
  minAvailable : Option IntOrString := none

structure PodDisruptionBudgetApply where
  typeMeta : TypeMeta
  metadata : ObjectMeta
  spec : Option PodDisruptionBudgetSpec := none

/-! ## Live objects -/

structure Secret where
  name : String
  data : GoMap String := ∅

structure DeploymentStatus where
  observedGeneration : Int := 0
  replicas : Int := 0
  updatedReplicas : Int := 0
  readyReplicas : Int := 0
  availableReplicas : Int := 0
  unavailableReplicas : Int := 0
deriving DecidableEq, Repr

structure Deployment where
  name : String
  /-- `none` is the nil map. -/
  annotations : Option (GoMap String) := none
  generation : Int := 0
  replicas : Option Int := none
  status : DeploymentStatus := {}

inductive JobConditionType where
  | complete
  | failed
  | other (name : String)
deriving DecidableEq, Repr

structure JobCondition where
  type : JobConditionType
  status : ConditionStatus
  message : String := ""
deriving DecidableEq, Repr

structure Job where
  name : String
  annotations : Option (GoMap String) := none
  conditions : List JobCondition := []

structure Pod where
  name : String
  labels : Option (GoMap String) := none
  creationTimestamp : Nat := 0
  /-- Per container status, the message of the last termination, if there was one. -/
  lastTerminations : List (Option String) := []

/-- `annotations[key]`, which is empty on a nil map. -/
def annotationAt (annotations : Option (GoMap String)) (key : String) : String :=
  (annotations.bind (·.lookup key)).getD ""

end SpiceDBOperator
