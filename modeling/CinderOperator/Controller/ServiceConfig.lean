import CinderOperator.Framework.Trace

/-!
# The service ConfigMap (`generateServiceConfigMaps`)

`generateServiceConfigMaps` builds one config template, `<name>-config-data`, whose data is the
free-form configuration of the CinderAPI: the `custom.conf` file (lib-common's
`CustomServiceConfigFileName`) holding `CustomServiceConfig`, and the files of
`DefaultConfigOverwrite`.  It hands the template to lib-common's `EnsureConfigMaps`, which records
the ConfigMap's hash in the caller's `envVars`, and returns `nil` whether that call failed or not.

`customData` is the map the Go code fills: `custom.conf` first, then every entry of
`DefaultConfigOverwrite` in the order the runtime picks for the `range`, then `custom.conf`
again.  `lookup_customData` is what that computes for every order: each overwrite entry, except
one for `custom.conf` itself, which the second write replaces, and nothing else.
`generateServiceConfigMaps_customData` follows every run of `generateServiceConfigMaps`: it asks
for the order, then hands `EnsureConfigMaps` one template with exactly that data.
-/

namespace CinderOperator

variable (X : Externals)

/-- The `customData` of `generateServiceConfigMaps`, with `order` the order the runtime picks
for `range instance.Spec.DefaultConfigOverwrite`. -/
def customData (spec : CinderAPISpec) (order : List (Σ _ : String, String)) : StrMap :=
  (order.foldl (fun customData e => customData.insert e.1 e.2)
      (Finmap.singleton X.customServiceConfigFileName spec.customServiceConfig)).insert
    X.customServiceConfigFileName spec.customServiceConfig

/-- `cms`, the templates `generateServiceConfigMaps` hands to `EnsureConfigMaps`. -/
def serviceConfigMaps (inst : CinderAPI) (order : List (Σ _ : String, String)) :
    List Template :=
  let cmLabels := X.getLabels inst (X.getGroupLabel X.serviceName) ∅
  [{ name := inst.name ++ "-config-data"
     ns := inst.ns
     type := .config
     instanceType := inst.kind
     customData := customData X inst.spec order
     labels := cmLabels }]

/-- What `EnsureConfigMaps` and `GetConfigMaps` do to the caller's `envVars`: the hash of each
ConfigMap, under its name. -/
def recordHashes (envVars : StrMap) (names hashes : List String) : StrMap :=
  (names.zip hashes).foldl (fun envVars p => envVars.insert p.1 p.2) envVars

/-- `generateServiceConfigMaps`: its error result is `nil` on every path, the failure of
`EnsureConfigMaps` included. -/
def generateServiceConfigMaps (envVars : StrMap) : Ctl (Option Error × StrMap) := do
  let inst ← get
  let order ← send (.rangeOrder inst.spec.defaultConfigOverwrite)
  let cms := serviceConfigMaps X inst order
  match ← send (.ensureConfigMaps inst cms) with
  | .error _ => return (none, envVars)
  | .ok hashes => return (none, recordHashes envVars (cms.map (·.name)) hashes)

/-! ## What a run does -/

variable {X}

/-- `generateServiceConfigMaps` writes nothing the cluster model tracks. -/
theorem generateServiceConfigMaps_keeps {J : Cluster → Prop} (hJ : Stable J) (envVars : StrMap) :
    Keeps J (generateServiceConfigMaps X envVars) := by
  unfold generateServiceConfigMaps
  refine Keeps.bind Keeps.get fun _ => Keeps.bind (Keeps.frame hJ fun _ _ _ h => h.1) fun _ =>
    Keeps.bind (Keeps.frame hJ fun _ _ _ h => h) fun r => ?_
  rcases r <;> exact Keeps.pure

/-! ## What the custom data holds -/

theorem lookup_customData (spec : CinderAPISpec) {order : List (Σ _ : String, String)}
    (h : IsRangeOrder spec.defaultConfigOverwrite order) (k : String) :
    (customData X spec order).lookup k =
      if k = X.customServiceConfigFileName then some spec.customServiceConfig
      else spec.defaultConfigOverwrite.lookup k := by
  unfold customData
  split
  · next hk => rw [hk, Finmap.lookup_insert]
  · next hk =>
    have hsingle : (Finmap.singleton X.customServiceConfigFileName spec.customServiceConfig :
        StrMap).lookup k = none :=
      Finmap.lookup_eq_none.mpr (by simpa [Finmap.mem_singleton] using hk)
    rw [Finmap.lookup_insert_of_ne _ hk, lookup_foldl_insert _ h.nodupKeys, hsingle,
      h.lookup_eq, Option.or_none]

/-- A run of `generateServiceConfigMaps` is a `range` order, then `EnsureConfigMaps` on the
template built with it. -/
theorem generateServiceConfigMaps_run (envVars : StrMap) (inst : CinderAPI) :
    (generateServiceConfigMaps X envVars).run inst =
      send (.rangeOrder inst.spec.defaultConfigOverwrite) >>= fun order =>
        send (.ensureConfigMaps inst (serviceConfigMaps X inst order)) >>= fun r =>
          pure ((none, match r with
            | .error _ => envVars
            | .ok hashes => recordHashes envVars ((serviceConfigMaps X inst order).map (·.name))
                hashes), inst) := by
  simp only [generateServiceConfigMaps, StateT.run_bind, StateT.run_get, pure_bind, liftM,
    monadLift, MonadLift.monadLift, StateT.run_lift, bind_assoc]
  congr 1
  funext order
  congr 1
  funext r
  cases r <;> rfl

/-- **The service ConfigMap's data.**  Every run of `generateServiceConfigMaps`, whatever the
spec, the order `range` visits `DefaultConfigOverwrite` in, and the replies, makes two calls: it
asks for that order, then hands `EnsureConfigMaps` a single template, whose data maps
`custom.conf` to `CustomServiceConfig` (even when the overwrites have their own `custom.conf`),
every other overwrite key to its value, and no other key. -/
theorem generateServiceConfigMaps_customData (envVars : StrMap) (inst : CinderAPI) {c c' : Cluster}
    {r : Option Error × StrMap} {i' : CinderAPI} {t : List Act}
    (h : Traced c ((generateServiceConfigMaps X envVars).run inst) (r, i') t c') :
    ∃ tmpl, t.map (·.op) =
        [.rangeOrder inst.spec.defaultConfigOverwrite, .ensureConfigMaps inst [tmpl]] ∧
      ∀ k, tmpl.customData.lookup k =
        if k = X.customServiceConfigFileName then some inst.spec.customServiceConfig
        else inst.spec.defaultConfigOverwrite.lookup k := by
  rw [generateServiceConfigMaps_run] at h
  obtain ⟨order, c₁, t₁, t₂, rfl, h₁, h₂⟩ := Traced.of_bind h
  obtain ⟨_, -, ⟨-, hord⟩, rfl⟩ := Traced.of_send h₁
  obtain ⟨_, _, t₃, t₄, rfl, h₃, h₄⟩ := Traced.of_bind h₂
  obtain ⟨_, -, -, rfl⟩ := Traced.of_send h₃
  cases h₄
  exact ⟨_, rfl, lookup_customData inst.spec hord⟩

/-- An overwrite that tries to replace `custom.conf`, visited first: the template still maps it to
the custom service config, and keeps the other overwrite. -/
theorem generateServiceConfigMaps_customData_sample :
    let inst := CinderAPI.sample
      (.sample "[DEFAULT]" ((Finmap.singleton "debug" "True").insert "custom.conf" "[nova]"))
    let c : Cluster := ⟨some inst, [], 1, ∅⟩
    ∃ r i' t c', Traced c ((generateServiceConfigMaps .sample ∅).run inst) (r, i') t c' ∧
      ∃ tmpl, t.map (·.op) =
          [.rangeOrder inst.spec.defaultConfigOverwrite, .ensureConfigMaps inst [tmpl]] ∧
        ∀ k, tmpl.customData.lookup k =
          if k = Externals.sample.customServiceConfigFileName then
            some inst.spec.customServiceConfig
          else inst.spec.defaultConfigOverwrite.lookup k := by
  intro inst c
  have hord : IsRangeOrder inst.spec.defaultConfigOverwrite
      [⟨"custom.conf", "[nova]"⟩, ⟨"debug", "True"⟩] := by decide
  obtain ⟨⟨r, i'⟩, t, c', h⟩ :
      ∃ a t c', Traced c ((generateServiceConfigMaps .sample ∅).run inst) a t c' :=
    ⟨_, _, _, by
      rw [generateServiceConfigMaps_run]
      exact .call .refl ⟨rfl, hord⟩ (.call .refl
        (show Call.Step (.ensureConfigMaps _ _) _ (.error .notFound) _ from rfl) (.pure _ _))⟩
  exact ⟨r, i', t, c', h, generateServiceConfigMaps_customData _ _ h⟩

end CinderOperator
