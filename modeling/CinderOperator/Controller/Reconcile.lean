import CinderOperator.Controller.ServiceConfig

/-!
# The reconciler (`CinderAPIReconciler`)

`reconcile` is `Reconcile`: fetch the CinderAPI, initialise its status, build the helper, run
`reconcileDelete` when the object is being deleted and `reconcileNormal` otherwise, and on the
way out patch the status if it changed.  The handlers run in `Ctl`, over the local `instance`
that the Go code passes by pointer.

* `reconcileDelete` deregisters the V2 and V3 KeystoneServices (the loop is
  `deleteKeystoneServices`), then removes the finalizer and updates the object.
* `reconcileNormal` first adds the finalizer and updates the object, then checks the OpenStack
  secret, creates the service ConfigMap, checks the parent Cinder's ConfigMaps, hashes the inputs
  (`createHashOfInputHashes`), runs `reconcileInit`, the `reconcileUpdate` and `reconcileUpgrade`
  hooks, and creates or patches the Deployment.
* `reconcileInit` exposes the V2 and V3 endpoints, checks the secret again, and creates or
  patches the two KeystoneServices (the loop is `registerKeystoneServices`).

Each step that can fail or ask for a requeue ends the handler there, as the Go code's early
returns do.  Log lines are left out.
-/

namespace CinderOperator

/-! ## Status updates the handlers make -/

namespace CinderAPI

/-- `instance.Status.APIEndpoints[name] = urls`, the map made first if it is `nil`. -/
def setAPIEndpoints (o : CinderAPI) (name : String) (urls : StrMap) : CinderAPI :=
  { o with status.apiEndpoints := some ((o.status.apiEndpoints.getD ∅).insert name urls) }

/-- `if instance.Status.ServiceIDs == nil { instance.Status.ServiceIDs = map[string]string{} }`. -/
def initServiceIDs (o : CinderAPI) : CinderAPI :=
  { o with status.serviceIDs := some (o.status.serviceIDs.getD ∅) }

/-- `instance.Status.ServiceIDs[name] = id`. -/
def setServiceID (o : CinderAPI) (name id : String) : CinderAPI :=
  { o with status.serviceIDs := some ((o.status.serviceIDs.getD ∅).insert name id) }

@[simp] theorem setAPIEndpoints_apiEndpoints (o : CinderAPI) (name : String) (urls : StrMap) :
    (o.setAPIEndpoints name urls).status.apiEndpoints =
      some ((o.status.apiEndpoints.getD ∅).insert name urls) := rfl

@[simp] theorem setAPIEndpoints_serviceIDs (o : CinderAPI) (name : String) (urls : StrMap) :
    (o.setAPIEndpoints name urls).status.serviceIDs = o.status.serviceIDs := rfl

@[simp] theorem initServiceIDs_apiEndpoints (o : CinderAPI) :
    o.initServiceIDs.status.apiEndpoints = o.status.apiEndpoints := rfl

@[simp] theorem initServiceIDs_serviceIDs (o : CinderAPI) :
    o.initServiceIDs.status.serviceIDs = some (o.status.serviceIDs.getD ∅) := rfl

@[simp] theorem setServiceID_apiEndpoints (o : CinderAPI) (name id : String) :
    (o.setServiceID name id).status.apiEndpoints = o.status.apiEndpoints := rfl

@[simp] theorem setServiceID_serviceIDs (o : CinderAPI) (name id : String) :
    (o.setServiceID name id).status.serviceIDs =
      some ((o.status.serviceIDs.getD ∅).insert name id) := rfl

end CinderAPI

/-- lib-common's `util.SetHash`: store `hash` under `name`, and report whether the stored value
changed. -/
def setHash (hashes : StrMap) (name hash : String) : StrMap × Bool :=
  if hashes.lookup name = some hash then (hashes, false) else (hashes.insert name hash, true)

/-- After `setHash`, the new value is stored under the name. -/
@[simp] theorem lookup_setHash (hashes : StrMap) (name hash : String) :
    (setHash hashes name hash).1.lookup name = some hash := by
  unfold setHash
  split
  · assumption
  · exact Finmap.lookup_insert _

/-- `setHash` reports no change only when it stored nothing new. -/
theorem setHash_of_unchanged {hashes hashMap : StrMap} {name hash : String}
    (h : setHash hashes name hash = (hashMap, false)) : hashMap = hashes := by
  unfold setHash at h
  split at h <;> cases h
  rfl

/-- `ctrl.Result{RequeueAfter: time.Second * 10}`. -/
def requeueAfter10s : Result := { requeueAfter := second * 10 }

variable (X : Externals)

/-! ## The handlers -/

/-- The `KeystoneServiceSpec` both handlers build for one row of `keystoneServices`. -/
def ksSvcSpec (inst : CinderAPI) (ksSvc : KeystoneServiceEntry) : KeystoneServiceSpec :=
  { serviceType := ksSvc.type
    serviceName := ksSvc.name
    serviceDescription := ksSvc.desc
    enabled := true
    apiEndpoints := ((inst.status.apiEndpoints.getD ∅).lookup ksSvc.name).getD ∅
    serviceUser := inst.spec.serviceUser
    secret := inst.spec.secret
    passwordSelector := inst.spec.passwordSelectorsService }

@[simp] theorem ksSvcSpec_serviceName (inst : CinderAPI) (ksSvc : KeystoneServiceEntry) :
    (ksSvcSpec inst ksSvc).serviceName = ksSvc.name := rfl

/-- The loop of `reconcileDelete`: delete the KeystoneService of each row, stopping at the first
error. -/
def deleteKeystoneServices : List KeystoneServiceEntry → Ctl (Option Error)
  | [] => pure none
  | ksSvc :: rest => do
    let inst ← get
    match ← send (.keystoneServiceDelete (ksSvcSpec inst ksSvc) inst.ns ∅ 10) with
    | some err => pure (some err)
    | none => deleteKeystoneServices rest

/-- `reconcileDelete`. -/
def reconcileDelete : Ctl (Result × Option Error) := do
  -- It's possible to get here before the endpoints have been set in the status, so check for this
  if (← get).status.apiEndpoints.isSome then
    if let some err ← deleteKeystoneServices (keystoneServices X) then
      return ({}, some err)
  -- Service is deleted so remove the finalizer.
  modify (·.removeFinalizer X.finalizer)
  if let some err ← update then
    if !err.isNotFound then return ({}, some err)
  return ({}, none)

/-- The `EndpointData` of one API version: the admin, public and internal ports, under `path`. -/
def endpointData (path : String) : GoMap Endpoint EndpointData :=
  ((Finmap.singleton Endpoint.admin ⟨X.cinderAdminPort, path⟩).insert
    .public ⟨X.cinderPublicPort, path⟩).insert .internal ⟨X.cinderInternalPort, path⟩

/-- The loop of `reconcileInit`: create or patch the KeystoneService of each row and record its
service ID, stopping at the first error or requeue. -/
def registerKeystoneServices (serviceLabels : StrMap) :
    List KeystoneServiceEntry → Ctl (Result × Option Error)
  | [] => pure ({}, none)
  | ksSvc :: rest => do
    let inst ← get
    let (ctrlResult, err, serviceID) ←
      send (.keystoneServiceCreateOrPatch (ksSvcSpec inst ksSvc) inst.ns serviceLabels 10)
    if let some err := err then return (ctrlResult, some err)
    else if ctrlResult ≠ {} then return (ctrlResult, none)
    modify (·.setServiceID ksSvc.name serviceID)
    registerKeystoneServices serviceLabels rest

/-- `reconcileInit`. -/
def reconcileInit (serviceLabels : StrMap) : Ctl (Result × Option Error) := do
  -- V2
  let (apiEndpointsV2, ctrlResult, err) ←
    send (.exposeEndpoints X.serviceName serviceLabels (endpointData X "/v2/%(project_id)s"))
  if let some err := err then return (ctrlResult, some err)
  else if ctrlResult ≠ {} then return (ctrlResult, none)
  modify (·.setAPIEndpoints X.serviceNameV2 apiEndpointsV2)
  -- V3
  let (apiEndpointsV3, ctrlResult, err) ←
    send (.exposeEndpoints X.serviceName serviceLabels (endpointData X "/v3/%(project_id)s"))
  if let some err := err then return (ctrlResult, some err)
  else if ctrlResult ≠ {} then return (ctrlResult, none)
  modify (·.setAPIEndpoints X.serviceNameV3 apiEndpointsV3)
  -- create users and endpoints
  let inst ← get
  if let .error err ← send (.getSecret inst.spec.secret inst.ns) then
    if err.isNotFound then
      return (requeueAfter10s,
        some (.other ("OpenStack secret " ++ inst.spec.secret ++ " not found")))
    return ({}, some err)
  modify (·.initServiceIDs)
  registerKeystoneServices serviceLabels (keystoneServices X)

/-- `reconcileUpdate`: a hook with no tasks yet. -/
def reconcileUpdate : Ctl (Result × Option Error) := pure ({}, none)

/-- `reconcileUpgrade`: a hook with no tasks yet. -/
def reconcileUpgrade : Ctl (Result × Option Error) := pure ({}, none)

/-- `createHashOfInputHashes`: hash the input hashes, and when the hash stored under
`common.InputHashName` changes, store the new one with an immediate status update. -/
def createHashOfInputHashes (envVars : StrMap) : Ctl (String × Option Error) := do
  let (hash, err) := X.objectHash envVars
  if let some err := err then return (hash, some err)
  let (hashMap, changed) := setHash ((← get).status.hash.getD ∅) X.inputHashName hash
  if changed then
    modify fun inst => { inst with status.hash := some hashMap }
    if let some err ← statusUpdate then return (hash, some err)
  return (hash, none)

/-- `reconcileNormal`. -/
def reconcileNormal : Ctl (Result × Option Error) := do
  -- If the service object doesn't have our finalizer, add it.
  modify (·.addFinalizer X.finalizer)
  -- Register the finalizer immediately to avoid orphaning resources on delete
  if let some err ← update then return ({}, some err)
  let configMapVars : StrMap := ∅
  -- check for required OpenStack secret holding passwords for service/admin user
  let inst ← get
  let (ospSecretName, hash) ← match ← send (.getSecret inst.spec.secret inst.ns) with
    | .error err =>
      if err.isNotFound then
        return (requeueAfter10s,
          some (.other ("OpenStack secret " ++ inst.spec.secret ++ " not found")))
      return ({}, some err)
    | .ok s => pure s
  let configMapVars := configMapVars.insert ospSecretName hash
  -- create custom Configmap for this cinder volume service
  let (err, configMapVars) ← generateServiceConfigMaps X configMapVars
  if let some err := err then return ({}, some err)
  -- check for required Cinder config maps that should have been created by ManagingCr
  let inst ← get
  let parentCinderName := X.getOwningCinderName inst
  let configMaps := [parentCinderName ++ "-scripts", parentCinderName ++ "-config-data"]
  let configMapVars ← match ← send (.getConfigMaps inst configMaps inst.ns) with
    | .error err =>
      if err.isNotFound then
        return (requeueAfter10s, some (.other
          ("Could not find all config maps for parent Cinder CR " ++ parentCinderName)))
      return ({}, some err)
    | .ok hashes => pure (recordHashes configMapVars configMaps hashes)
  -- create hash over all the different input resources
  let (inputHash, err) ← createHashOfInputHashes X configMapVars
  if let some err := err then return ({}, some err)
  let serviceLabels : StrMap := Finmap.singleton X.appSelector X.serviceName
  -- Handle service init
  let (ctrlResult, err) ← reconcileInit X serviceLabels
  if let some err := err then return (ctrlResult, some err)
  else if ctrlResult ≠ {} then return (ctrlResult, none)
  -- Handle service update
  let (ctrlResult, err) ← reconcileUpdate
  if let some err := err then return (ctrlResult, some err)
  else if ctrlResult ≠ {} then return (ctrlResult, none)
  -- Handle service upgrade
  let (ctrlResult, err) ← reconcileUpgrade
  if let some err := err then return (ctrlResult, some err)
  else if ctrlResult ≠ {} then return (ctrlResult, none)
  -- Define a new Deployment object
  let (ctrlResult, err, readyReplicas) ←
    send (.deploymentCreateOrPatch (← get) inputHash serviceLabels 5)
  if let some err := err then return (ctrlResult, some err)
  else if ctrlResult ≠ {} then return (ctrlResult, none)
  modify fun inst => { inst with status.readyCount := readyReplicas }
  return ({}, none)

/-! ## The pass -/

/-- The deferred function of `Reconcile`: `SetAfter`, and a merge patch of the status when the
helper reports a status change.  Errors are only logged. -/
def patchStatus (before inst : CinderAPI) : Prog Unit := do
  let (_, changed) ← send (.setAfter before inst)
  if changed then
    let _ ← send (.statusPatch before inst)

/-- `Reconcile`. -/
def reconcile (req : NamespacedName) : Prog (Result × Option Error) := do
  match ← send (.get req) with
  | .error err =>
    -- Request object not found, could have been deleted after reconcile request.
    if err.isNotFound then return ({}, none)
    -- Error reading the object - requeue the request.
    return ({}, some err)
  | .ok fetched =>
    let inst := fetched.initStatus
    if let some err ← send (.newHelper inst) then return ({}, some err)
    let (res, inst') ← (if inst.isDeleting then reconcileDelete X else reconcileNormal X).run inst
    -- Always patch the instance status when exiting this function
    patchStatus inst inst'
    return res

end CinderOperator
