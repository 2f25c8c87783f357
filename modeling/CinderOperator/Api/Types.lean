import CinderOperator.Framework.Go

/-!
# The CinderAPI resource and what the controller builds from it

`CinderAPI` is the custom resource the controller reconciles, with the fields of its
`ObjectMeta`, `CinderAPISpec` and `CinderAPIStatus` that the controller and the pod builder read
or write.  Its metadata is kept flat: the API server's bookkeeping (`resourceVersion`,
`finalizers`, `deletionTimestamp`) sits beside the name.

`initStatus` is the status initialisation at the top of `Reconcile`; `addFinalizer` and
`removeFinalizer` are controller-runtime's `controllerutil` helpers.  `KeystoneServiceSpec`,
`Template` and `EndpointData` are the values the controller hands to lib-common's
KeystoneService, ConfigMap and endpoint helpers.

`Externals` collects what the modelled code calls from outside `src/`: the constants and helpers
of `pkg/cinder`, of lib-common and of the controller's helper object.  Every definition that
reads one of them takes an `Externals` argument, so every theorem holds for all their values.
-/

namespace CinderOperator

/-! ## The resource -/

/-- A `metav1.OwnerReference`: the kind and name of an owning object. -/
structure OwnerReference where
  kind : String
  name : String
deriving DecidableEq, Repr

/-- `tls.GenericService`: the TLS settings of one endpoint, by the secret that holds its
certificate. -/
structure GenericService where
  secretName : Option String
deriving DecidableEq, Repr

/-- `tls.API`: the TLS settings of the public and the internal endpoint. -/
structure TlsAPI where
  public : GenericService
  internal : GenericService
deriving DecidableEq, Repr

/-- `tls.API` with the CA bundle, the `TLS` section of the spec. -/
structure TlsSection where
  api : TlsAPI
  caBundleSecretName : String
deriving DecidableEq, Repr

/-- `CinderAPISpec`, the fields the controller and the pod builder read.  `extraMounts` and
`resources` are only handed on (to the volume helpers and into the containers) and are kept by
name. -/
structure CinderAPISpec where
  secret : String
  serviceUser : String
  passwordSelectorsService : String
  customServiceConfig : String
  defaultConfigOverwrite : StrMap
  containerImage : String
  replicas : Option Int
  debugService : Bool
  tls : TlsSection
  extraMounts : List String
  resources : StrMap
  nodeSelector : StrMap
  serviceAccount : String
deriving DecidableEq

/-- `CinderAPIStatus`.  A Go map or slice field may be `nil`, which is `none` here. -/
structure CinderAPIStatus where
  conditions : Option (List String)
  hash : Option StrMap
  apiEndpoints : Option (GoMap String StrMap)
  serviceIDs : Option StrMap
  readyCount : Int
deriving DecidableEq

/-- A `CinderAPI` object as the API server stores it. -/
structure CinderAPI where
  kind : String
  name : String
  ns : String
  resourceVersion : Nat
  finalizers : List String
  deletionTimestamp : Option Nat
  ownerReferences : List OwnerReference
  spec : CinderAPISpec
  status : CinderAPIStatus
deriving DecidableEq

namespace CinderAPI

/-- `!instance.DeletionTimestamp.IsZero()`: the object is being deleted. -/
def isDeleting (o : CinderAPI) : Bool := o.deletionTimestamp.isSome

/-- The status initialisation of `Reconcile`: each `nil` map or list becomes empty, and one that
is already there is kept. -/
def initStatus (o : CinderAPI) : CinderAPI :=
  { o with status :=
    { o.status with
      conditions := some (o.status.conditions.getD [])
      hash := some (o.status.hash.getD ∅)
      apiEndpoints := some (o.status.apiEndpoints.getD ∅)
      serviceIDs := some (o.status.serviceIDs.getD ∅) } }

/-- `controllerutil.AddFinalizer`: appends the finalizer unless it is already there. -/
def addFinalizer (o : CinderAPI) (f : String) : CinderAPI :=
  { o with finalizers := if f ∈ o.finalizers then o.finalizers else o.finalizers ++ [f] }

/-- `controllerutil.RemoveFinalizer`: drops every occurrence of the finalizer. -/
def removeFinalizer (o : CinderAPI) (f : String) : CinderAPI :=
  { o with finalizers := o.finalizers.filter (· ≠ f) }

@[simp] theorem initStatus_finalizers (o : CinderAPI) : o.initStatus.finalizers = o.finalizers :=
  rfl

@[simp] theorem initStatus_isDeleting (o : CinderAPI) : o.initStatus.isDeleting = o.isDeleting :=
  rfl

@[simp] theorem initStatus_apiEndpoints_isSome (o : CinderAPI) :
    o.initStatus.status.apiEndpoints.isSome = true :=
  rfl

theorem mem_addFinalizer (o : CinderAPI) (f : String) : f ∈ (o.addFinalizer f).finalizers := by
  unfold addFinalizer
  split <;> simp_all

end CinderAPI

/-! ## Values handed to lib-common -/

/-- `keystonev1.KeystoneServiceSpec`, the registration the controller asks for. -/
structure KeystoneServiceSpec where
  serviceType : String
  serviceName : String
  serviceDescription : String
  enabled : Bool
  apiEndpoints : StrMap
  serviceUser : String
  secret : String
  passwordSelector : String
deriving DecidableEq

/-- One row of the `keystoneServices` table.  The Go code keeps each row as a
`map[string]string` with the keys `type`, `name` and `desc`, all three always present. -/
structure KeystoneServiceEntry where
  type : String
  name : String
  desc : String
deriving DecidableEq, Repr

/-- `util.TemplateType`, with the one value the code builds, `TemplateTypeConfig`. -/
inductive TemplateType where
  | config
deriving DecidableEq, Repr

/-- `util.Template`: a ConfigMap for lib-common's `EnsureConfigMaps` to create or patch. -/
structure Template where
  name : String
  ns : String
  type : TemplateType
  instanceType : String
  customData : StrMap
  labels : StrMap
deriving DecidableEq

/-- `endpoint.Endpoint`: the three scopes a service is exposed on. -/
inductive Endpoint where
  | admin
  | public
  | internal
deriving DecidableEq, Repr

/-- `endpoint.EndpointData`: the port and path of one exposed endpoint. -/
structure EndpointData where
  port : Nat
  path : String
deriving DecidableEq, Repr

/-! ## What the code calls from outside `src/` -/

/-- The declarations of `pkg/cinder`, of lib-common and of the controller's `helper.Helper` that
the modelled code reads.  None of them is part of `src/`; each is a field, so that every result
holds whatever their values. -/
structure Externals where
  /-- `cinder.ServiceName`. -/
  serviceName : String
  /-- `cinder.ServiceTypeV2` and `cinder.ServiceNameV2`. -/
  serviceTypeV2 : String
  serviceNameV2 : String
  /-- `cinder.ServiceTypeV3` and `cinder.ServiceNameV3`. -/
  serviceTypeV3 : String
  serviceNameV3 : String
  /-- `cinder.CinderAdminPort`, `cinder.CinderPublicPort`, `cinder.CinderInternalPort`. -/
  cinderAdminPort : Nat
  cinderPublicPort : Nat
  cinderInternalPort : Nat
  /-- `cinder.GetOwningCinderName`: the name of the Cinder resource that owns a CinderAPI. -/
  getOwningCinderName : CinderAPI → String
  /-- lib-common's `labels.GetGroupLabel` and `labels.GetOwnerNameLabelSelector`. -/
  getGroupLabel : String → String
  getOwnerNameLabelSelector : String → String
  /-- lib-common's `labels.GetLabels(obj, groupLabel, custom)`. -/
  getLabels : CinderAPI → String → StrMap → StrMap
  /-- lib-common's `common.CustomServiceConfigFileName`, `common.InputHashName` and
  `common.AppSelector`. -/
  customServiceConfigFileName : String
  inputHashName : String
  appSelector : String
  /-- `helper.GetFinalizer()`: the finalizer this controller puts on its objects. -/
  finalizer : String
  /-- lib-common's `util.ObjectHash(env.MergeEnvs([]corev1.EnvVar{}, envVars))`: a digest of
  the input hashes, or an error. -/
  objectHash : StrMap → String × Option Error

/-- The `keystoneServices` table: the V2 and the V3 API, in that order. -/
def keystoneServices (X : Externals) : List KeystoneServiceEntry :=
  [⟨X.serviceTypeV2, X.serviceNameV2, "Cinder V2 Service"⟩,
   ⟨X.serviceTypeV3, X.serviceNameV3, "Cinder V3 Service"⟩]

/-! ## Values to run the model on -/

/-- Values for the externals, to evaluate the model on concrete inputs. -/
def Externals.sample : Externals where
  serviceName := "cinder"
  serviceTypeV2 := "volumev2"
  serviceNameV2 := "cinderv2"
  serviceTypeV3 := "volumev3"
  serviceNameV3 := "cinderv3"
  cinderAdminPort := 8776
  cinderPublicPort := 8776
  cinderInternalPort := 8776
  getOwningCinderName o := (o.ownerReferences.head?.map (·.name)).getD ""
  getGroupLabel g := g
  getOwnerNameLabelSelector g := g ++ "/name"
  getLabels o g _ := Finmap.singleton (g ++ "/name") o.name
  customServiceConfigFileName := "custom.conf"
  inputHashName := "input"
  appSelector := "service"
  finalizer := "cinderapi"
  objectHash _ := ("0", none)

/-- A CinderAPI named `cinder-api` in `openstack`, owned by the Cinder `cinder`, with the given
spec and an empty status. -/
def CinderAPI.sample (spec : CinderAPISpec) : CinderAPI where
  kind := "CinderAPI"
  name := "cinder-api"
  ns := "openstack"
  resourceVersion := 1
  finalizers := []
  deletionTimestamp := none
  ownerReferences := [⟨"Cinder", "cinder"⟩]
  spec := spec
  status := ⟨none, none, none, none, 0⟩

/-- A spec with the given custom service config and default-config overwrites, and no TLS. -/
def CinderAPISpec.sample (customServiceConfig : String) (overwrites : StrMap) : CinderAPISpec where
  secret := "osp-secret"
  serviceUser := "cinder"
  passwordSelectorsService := "CinderPassword"
  customServiceConfig := customServiceConfig
  defaultConfigOverwrite := overwrites
  containerImage := "cinder-api"
  replicas := some 1
  debugService := false
  tls := ⟨⟨⟨none⟩, ⟨none⟩⟩, ""⟩
  extraMounts := []
  resources := ∅
  nodeSelector := ∅
  serviceAccount := "cinder"

end CinderOperator
