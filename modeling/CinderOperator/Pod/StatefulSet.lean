import CinderOperator.Api.Types

/-!
# The API pod (`cinderapi.StatefulSet`)

`statefulSet` is `StatefulSet` of `pkg/cinderapi`: the StatefulSet that runs the Cinder API, built
from the CinderAPI, the hash of its inputs, and the labels and annotations the controller picks.
Its pod has two containers: first one that tails the API's log file (the first container is the
one `oc logs` shows), then the API container itself, which runs `/bin/bash -c` on a script.

* In debug mode the script is `common.DebugCommand` and both probes run `/bin/true`; otherwise it
  is `ServiceCommand`, and both probes ask for `/healthcheck` on the public port, over HTTPS
  exactly when the public endpoint has TLS.  The two probes share one handler (`probes`).
* The volumes are those of `GetVolumes`, then the CA bundle's when the spec names one, then a
  certificate volume for each of the internal and the public endpoint that has TLS, in that
  order; the API container mounts them alike.  The loop over the two endpoints is
  `addEndpointTLS`; it needs each TLS endpoint's `tls.Service`, and the first failure to get one
  is the builder's only error.

`PodExternals` collects what the builder calls outside `src/`: the rest of `pkg/cinderapi`
(`GetVolumes`, `LogFile`, `ComponentName`, ...), `cinder.GetPodAffinity`, and lib-common's TLS
and env helpers.  The `Externals` of the controller give the public port and the owning Cinder's
name.  The controller itself deploys with `cinderapi.Deployment`, which is not part of `src/`;
`StatefulSet` is modelled on its own, as the source has it, and no result here is about it: what
it returns turns on a few flags over a fixed two-endpoint loop.
-/

namespace CinderOperator

/-! ## Kubernetes objects -/

/-- A `corev1.Volume`, by its name. -/
structure Volume where
  name : String
deriving DecidableEq, Repr

/-- A `corev1.VolumeMount`. -/
structure VolumeMount where
  name : String
  mountPath : String
  readOnly : Bool
deriving DecidableEq, Repr

/-- A `corev1.EnvVar` with a plain value. -/
structure EnvVar where
  name : String
  value : String
deriving DecidableEq, Repr

/-- `corev1.HTTPGetAction`.  The scheme is empty unless set, which Kubernetes reads as HTTP. -/
structure HTTPGetAction where
  path : String
  port : Nat
  scheme : String := ""
deriving DecidableEq, Repr

/-- `corev1.Probe`: its timings, and its handler, a command (`Exec`) or an HTTP GET. -/
structure Probe where
  timeoutSeconds : Nat
  periodSeconds : Nat
  initialDelaySeconds : Nat
  exec : Option (List String) := none
  httpGet : Option HTTPGetAction := none
deriving DecidableEq, Repr

/-- A preferred pod anti-affinity term of `corev1.Affinity`: keep away, with `weight`, from the
pods whose label `key` has one of `values`, per `topologyKey`. -/
structure AntiAffinityTerm where
  weight : Nat
  key : String
  values : List String
  topologyKey : String
deriving DecidableEq, Repr

/-- `corev1.Affinity`, by its preferred pod anti-affinity terms. -/
structure Affinity where
  podAntiAffinity : List AntiAffinityTerm
deriving DecidableEq, Repr

/-- `corev1.Container`, the fields `StatefulSet` sets. -/
structure Container where
  name : String
  command : List String
  args : List String
  image : String
  runAsUser : Int
  env : List EnvVar
  volumeMounts : List VolumeMount
  resources : StrMap
  readinessProbe : Option Probe := none
  livenessProbe : Option Probe := none
deriving DecidableEq

/-- `corev1.PodSpec`, the fields `StatefulSet` sets. -/
structure PodSpec where
  serviceAccountName : String
  containers : List Container
  affinity : Affinity
  nodeSelector : StrMap
  volumes : List Volume
deriving DecidableEq

/-- `corev1.PodTemplateSpec`. -/
structure PodTemplateSpec where
  annotations : StrMap
  labels : StrMap
  spec : PodSpec
deriving DecidableEq

/-- `appsv1.StatefulSet`, the fields `StatefulSet` sets. -/
structure StatefulSet where
  name : String
  ns : String
  labels : StrMap
  /-- `Spec.Selector.MatchLabels`. -/
  selector : StrMap
  replicas : Option Int
  template : PodTemplateSpec
deriving DecidableEq

/-- `tls.Service`: the TLS material of one endpoint, by the secret that holds it. -/
structure TlsService where
  secretName : String
deriving DecidableEq, Repr

/-! ## What the builder calls from outside `src/` -/

/-- The declarations of the rest of `pkg/cinderapi`, of `pkg/cinder` and of lib-common that
`StatefulSet` calls.  None is part of `src/`; each is a field, so that every result holds
whatever their values. -/
structure PodExternals where
  /-- lib-common's `common.DebugCommand`. -/
  debugCommand : String
  /-- `LogFile` and `ComponentName` of `pkg/cinderapi`. -/
  logFile : String
  componentName : String
  /-- `GetVolumes(parentName, name, extraMounts)`, `GetVolumeMounts(extraMounts)` and
  `GetLogVolumeMount()` of `pkg/cinderapi`. -/
  getVolumes : String → String → List String → List Volume
  getVolumeMounts : List String → List VolumeMount
  getLogVolumeMount : VolumeMount
  /-- `cinder.GetPodAffinity(componentName)`. -/
  getPodAffinity : String → Affinity
  /-- lib-common's `tls.API.Enabled(endpt)`: whether the endpoint has TLS. -/
  enabled : TlsAPI → Endpoint → Bool
  /-- lib-common's `tls.GenericService.ToService()`. -/
  toService : GenericService → Except Error TlsService
  /-- lib-common's `tls.Service.CreateVolume(id)` and `CreateVolumeMounts(id)`. -/
  createVolume : TlsService → String → Volume
  createVolumeMounts : TlsService → String → List VolumeMount
  /-- lib-common's `tls.TLS.CreateVolume()` and `CreateVolumeMounts(nil)`: the CA bundle's. -/
  caCreateVolume : TlsSection → Volume
  caCreateVolumeMounts : TlsSection → List VolumeMount
  /-- lib-common's `service.Endpoint.String()`. -/
  endpointString : Endpoint → String
  /-- lib-common's `env.MergeEnvs([]corev1.EnvVar{}, envVars)`, for a map of `env.SetValue`
  setters, given by their values. -/
  mergeEnvs : StrMap → List EnvVar

variable (P : PodExternals) (X : Externals)

/-! ## The builder -/

/-- `ServiceCommand`. -/
def serviceCommand : String := "/usr/local/bin/kolla_set_configs && /usr/local/bin/kolla_start"

/-- The API container's arguments and its liveness and readiness probes.  In the service mode the
readiness probe's `HTTPGet` is the liveness probe's pointer, so setting the scheme on either sets
it on both. -/
def probes (inst : CinderAPI) : List String × Probe × Probe :=
  let livenessProbe : Probe := { timeoutSeconds := 5, periodSeconds := 3, initialDelaySeconds := 5 }
  let readinessProbe : Probe := { timeoutSeconds := 5, periodSeconds := 5, initialDelaySeconds := 5 }
  let args := ["-c"]
  if inst.spec.debugService then
    let exec := ["/bin/true"]
    (args ++ [P.debugCommand], { livenessProbe with exec := some exec },
      { readinessProbe with exec := some exec })
  else
    let httpGet : HTTPGetAction := { path := "/healthcheck", port := X.cinderPublicPort }
    let httpGet :=
      if P.enabled inst.spec.tls.api .public then { httpGet with scheme := "HTTPS" } else httpGet
    (args ++ [serviceCommand], { livenessProbe with httpGet := some httpGet },
      { readinessProbe with httpGet := some httpGet })

/-- The `tls.GenericService` the loop's `switch` picks for an endpoint; Go's zero value for one it
has no case for. -/
def tlsEndptCfg (api : TlsAPI) : Endpoint → GenericService
  | .public => api.public
  | .internal => api.internal
  | .admin => ⟨none⟩

/-- One pass of the loop over the endpoints: when the endpoint has TLS, add the volume and the
mounts of its certificate, or fail with the error of `ToService`. -/
def addEndpointTLS (api : TlsAPI) (acc : List Volume × List VolumeMount) (endpt : Endpoint) :
    Except Error (List Volume × List VolumeMount) :=
  if P.enabled api endpt then
    match P.toService (tlsEndptCfg api endpt) with
    | .error err => .error err
    | .ok svc =>
      .ok (acc.1 ++ [P.createVolume svc (P.endpointString endpt)],
        acc.2 ++ P.createVolumeMounts svc (P.endpointString endpt))
  else .ok acc

/-- `envVars`: the config strategy and the hash of the inputs. -/
def envVars (configHash : String) : StrMap :=
  ((∅ : StrMap).insert "KOLLA_CONFIG_STRATEGY" "COPY_ALWAYS").insert "CONFIG_HASH" configHash

/-- The StatefulSet that `StatefulSet` returns, around the API container's arguments and probes and
the pod's volumes and the API container's mounts. -/
def podStatefulSet (inst : CinderAPI) (configHash : String) (labels annotations : StrMap)
    (args : List String) (livenessProbe readinessProbe : Probe) (volumes : List Volume)
    (volumeMounts : List VolumeMount) : StatefulSet :=
  let runAsUser : Int := 0
  let envVars := envVars configHash
  { name := inst.name
    ns := inst.ns
    labels := labels
    selector := labels
    replicas := inst.spec.replicas
    template := {
      annotations := annotations
      labels := labels
      spec := {
        serviceAccountName := inst.spec.serviceAccount
        containers := [
          -- the first container in a pod is the default selected
          -- by oc log so define the log stream container first.
          { name := inst.name ++ "-log"
            command := ["/usr/bin/dumb-init"]
            args := ["--single-child", "--", "/usr/bin/tail", "-n+1", "-F", P.logFile]
            image := inst.spec.containerImage
            runAsUser := runAsUser
            env := P.mergeEnvs envVars
            volumeMounts := [P.getLogVolumeMount]
            resources := inst.spec.resources },
          { name := P.componentName
            command := ["/bin/bash"]
            args := args
            image := inst.spec.containerImage
            runAsUser := runAsUser
            env := P.mergeEnvs envVars
            volumeMounts := volumeMounts
            resources := inst.spec.resources
            readinessProbe := some readinessProbe
            livenessProbe := some livenessProbe }]
        affinity := P.getPodAffinity P.componentName
        nodeSelector := inst.spec.nodeSelector
        volumes := volumes } } }

/-- `StatefulSet`. -/
def statefulSet (inst : CinderAPI) (configHash : String) (labels annotations : StrMap) :
    Except Error StatefulSet := do
  let (args, livenessProbe, readinessProbe) := probes P X inst
  -- create Volume and VolumeMounts
  let volumes := P.getVolumes (X.getOwningCinderName inst) inst.name inst.spec.extraMounts
  let volumeMounts := P.getVolumeMounts inst.spec.extraMounts
  -- add CA cert if defined
  let (volumes, volumeMounts) :=
    if inst.spec.tls.caBundleSecretName ≠ "" then
      (volumes ++ [P.caCreateVolume inst.spec.tls], volumeMounts ++ P.caCreateVolumeMounts inst.spec.tls)
    else (volumes, volumeMounts)
  let (volumes, volumeMounts) ←
    [Endpoint.internal, .public].foldlM (addEndpointTLS P inst.spec.tls.api) (volumes, volumeMounts)
  return podStatefulSet P inst configHash labels annotations args livenessProbe readinessProbe
    volumes volumeMounts

end CinderOperator
