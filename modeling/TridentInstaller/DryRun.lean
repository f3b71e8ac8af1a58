import TridentInstaller.Store
set_option autoImplicit false

/-!
# What a dry run predicts

A dry run passes only the pre-checks.  The real run then succeeds once what they do not
look at holds too (`dry_run_ok_real_run_ok`), and a dry run that fails is the real run
(`dry_run_failure_is_real`).  `Returns x Q` says that `x` returns a value satisfying `Q`.
-/

namespace TridentInstaller

open Run

/-! ## What the real run needs of the environment -/

/-- Every mutating call succeeds. -/
structure CallsSucceed (env : Env) : Prop where
  create : ∀ o, env.create o = none
  delete : ∀ o, env.delete o = none
  addSCCUser : env.addTridentUserToOpenShiftSCC = none
  removeSCCUser : env.removeTridentUserFromOpenShiftSCC = none
  createRole : ∃ b, env.createTridentRole = .ok b
  addRole : ∃ b, env.addTridentRoleToServiceAccount = .ok b
  removeRole : ∃ b, env.removeTridentRoleFromServiceAccount = .ok b
  deleteRole : ∃ b, env.deleteTridentRole = .ok b
  addVolume : ∀ config pool, ∃ v, env.addVolume config pool = .ok v

/-- `pod` is the first pod an attempt of the pod wait's schedule sees running. -/
def FirstRunning (env : Env) (pod : Pod) : Prop :=
  ∃ k ≤ env.podBackOff.length, env.getPodByLabel k = .ok pod ∧ pod.phase = "Running" ∧
    ∀ j < k, ∀ q, env.getPodByLabel j = .ok q → q.phase ≠ "Running"

/-- Every readiness wait sees its condition before its back-off stops: the PVC is
bound, the Trident pod runs, and the REST interface of the pod the wait returns answers. -/
structure WaitsSucceed (env : Env) : Prop where
  pvcBound : ∃ k ≤ env.pvcBackOff.length, pvcBoundAttempt env k = .ok ()
  podRunning : ∃ k ≤ env.podBackOff.length, ∃ pod, podRunningAttempt env k = .ok pod
  restUp : ∀ pod, FirstRunning env pod →
    ∃ k ≤ env.restBackOff.length, ∃ version, restAttempt env pod.name k = .ok version

/-! ## A dry run that passes before a real run that fails -/

/-- A backend whose driver starts but which has no storage pools; every call succeeds. -/
def noPoolEnv : Env :=
  { firstRunEnv with
    create := fun _ => none
    newStorageBackendForConfig := fun _ => .ok ⟨"nfs", "ontap-nas", "file", []⟩ }

/-- The override files the run reads pass their validators. -/
structure OverridesValid (cfg : Config) (env : Env) : Prop where
  pvc : env.checkPVCExists cfg.pvcName = .ok false → fromFile cfg env cfg.paths.pvcPath = true →
    validateTridentPVC cfg env = .ok ()
  deployment : cfg.csi = false → fromFile cfg env cfg.paths.deploymentPath = true →
    validateTridentDeployment cfg env = .ok ()
  service : cfg.csi = true → fromFile cfg env cfg.paths.csiServicePath = true →
    validateTridentService cfg env = .ok ()
  statefulSet : cfg.csi = true → fromFile cfg env cfg.paths.csiStatefulSetPath = true →
    validateTridentStatefulSet cfg env = .ok ()
  daemonSet : cfg.csi = true → fromFile cfg env cfg.paths.csiDaemonSetPath = true →
    validateTridentDaemonSet cfg env = .ok ()

/-- A volume whose access fields yield a PV: an NFS export, or an iSCSI target whose
CHAP secret, when it has one, needs Kubernetes 1.7 and a secret lookup that answers. -/
def VolumeUsable (env : Env) (v : Volume) : Prop :=
  v.accessInfo.nfsServerIP ≠ "" ∨ v.accessInfo.iscsiTargetPortal ≠ "" ∧
    (v.accessInfo.iscsiTargetSecret ≠ "" → env.version.atLeast Version.chapMin = true ∧
      ∃ b, env.checkSecretExists (env.chapSecretName v) = .ok b)

/-- When the PV is to be created, the backend has a pool and every volume it allocates
is usable. -/
def BackendUsable (cfg : Config) (env : Env) : Prop :=
  env.checkPVExists cfg.pvName = .ok false → ∀ sb, (loadStorageDriver cfg env).result = .ok sb →
    sb.storage ≠ [] ∧
      ∀ v, env.addVolume (volumeConfig cfg sb) (choosePool env sb) = .ok v → VolumeUsable env v

/-! ## The size of an existing PV -/

/-- The cluster with an existing PV that reports `capacity` instead. -/
def Env.withPVCapacity (env : Env) (capacity : Option Quantity) : Env :=
  { env with getPV := fun name => (env.getPV name).map fun pv => { pv with capacity := capacity } }

section Capacity

variable (cfg : Config) (env : Env) (capacity : Option Quantity)

theorem result_checkPV_withPVCapacity (requested : Quantity) :
    (checkPV cfg (env.withPVCapacity capacity) requested).result =
      (checkPV cfg env requested).result := by
  simp only [checkPV, checkExistingPV, Env.withPVCapacity]
  cases env.checkPVExists cfg.pvName with
  | error e => rfl
  | ok b =>
      cases b
      · rfl
      · cases env.getPV cfg.pvName with
        | error e => rfl
        | ok pv =>
            -- the size is read only by `warnPVSize`, which returns whatever it logs
            simp only [Except.map, result_bind, result_ite, expect_ok, Run.result_pure,
              result_warnPVSize]
            rfl

theorem result_preChecks_withPVCapacity :
    (preChecks cfg (env.withPVCapacity capacity)).result = (preChecks cfg env).result := by
  simp only [preChecks, result_bind, result_checkPV_withPVCapacity]
  rfl

/-- The mutation phase does not read the PV. -/
theorem install_withPVCapacity (p : Probed) :
    install cfg (env.withPVCapacity capacity) p = install cfg env p :=
  rfl

end Capacity

/-- The size of an existing PV is compared, never enforced.  For every configuration and
environment, and whatever capacity the existing PV reports, the run makes the same
mutating calls and returns the same result: a PV smaller or larger than the requested
volume size, or of unknown size, is adopted all the same, with a warning in the log. -/
theorem installTrident_pv_size_only_warns (cfg : Config) (env : Env)
    (capacity : Option Quantity) :
    callsOf (installTrident cfg (env.withPVCapacity capacity)).events =
        callsOf (installTrident cfg env).events ∧
      (installTrident cfg (env.withPVCapacity capacity)).result = (installTrident cfg env).result := by
  have hpre := result_preChecks_withPVCapacity cfg env capacity
  unfold installTrident
  cases h : (preChecks cfg env).result with
  | error e =>
      rw [events_bind_error _ (hpre.trans h), events_bind_error _ h,
        result_bind_error _ (hpre.trans h), result_bind_error _ h,
        noCalls_preChecks, noCalls_preChecks]
      exact ⟨rfl, rfl⟩
  | ok p =>
      rw [events_bind_ok _ (hpre.trans h), events_bind_ok _ h, result_bind_ok _ (hpre.trans h),
        result_bind_ok _ h, callsOf_append, callsOf_append, noCalls_preChecks, noCalls_preChecks,
        install_withPVCapacity]
      exact ⟨rfl, rfl⟩

/-! ## Runs that return -/

section Returns

variable {α β : Type}

/-- The run returns a value satisfying `Q`. -/
def Returns (x : Run α) (Q : α → Prop) : Prop := ∃ a, x.result = .ok a ∧ Q a

theorem Returns.bind {x : Run α} {f : α → Run β} {Q : α → Prop} {R : β → Prop}
    (hx : Returns x Q) (hf : ∀ a, Q a → Returns (f a) R) : Returns (x >>= f) R :=
  let ⟨a, ha, hq⟩ := hx
  let ⟨b, hb, hr⟩ := hf a hq
  ⟨b, by rw [result_bind_ok f ha, hb], hr⟩

theorem returns_pure {Q : α → Prop} {a : α} (h : Q a) : Returns (Run.pure a) Q := ⟨a, rfl, h⟩

theorem returns_log (level : Level) (msg : String) (fields : List (String × Value)) :
    Returns (log level msg fields) (fun _ => True) := ⟨(), rfl, trivial⟩

theorem returns_onlyIf (c : Bool) {step : Run Unit} (h : c = true → Returns step fun _ => True) :
    Returns (onlyIf c step) fun _ => True := by
  cases c
  · exact returns_pure trivial
  · exact h rfl

theorem returns_stopIf_false (msg : String) : Returns (stopIf false msg) fun _ => True :=
  returns_pure trivial

theorem Returns.wrap {x : Run α} {Q : α → Prop} (f : String → String) (h : Returns x Q) :
    Returns (Run.wrap f x) Q :=
  let ⟨a, ha, hq⟩ := h
  ⟨a, result_wrap_ok f ha, hq⟩

end Returns

/-! ## Each step of the mutation phase -/

section Steps

variable (cfg : Config) (env : Env) (hcalls : CallsSucceed env)
include hcalls

/-- The create block returns when the create succeeds and the validator, where the
file branch runs one, passes. -/
theorem returns_createObjectFromFileOrYAML (o : Obj) (path : String)
    (validation : Option (String × Except String Unit)) (m : Manifest)
    (renderedFields : List (String × Value)) (failure created : String)
    (hval : ∀ what r, validation = some (what, r) → fromFile cfg env path = true → r = .ok ()) :
    Returns (createObjectFromFileOrYAML cfg env o path validation m renderedFields failure created)
      fun _ => True := by
  have hpass : ¬ validationFails cfg env path validation := by
    rintro ⟨hfile, what, e, rfl⟩
    cases hval what _ rfl hfile
  rw [createObjectFromFileOrYAML_of_not_validationFails cfg env o path validation m renderedFields
    failure created hpass, hcalls.create o]
  exact ⟨(), rfl, trivial⟩

theorem returns_removeRBACObjects (logLevel : Level) :
    Returns (removeRBACObjects cfg env logLevel) (· = false) := by
  have hdel : ∀ o c failed done level, Returns (bestEffort c (env.delete o) failed done level)
      (· = false) := fun o c _ _ _ => ⟨false, by rw [result_bestEffort, hcalls.delete o]; rfl, rfl⟩
  obtain ⟨_, hremove⟩ := hcalls.removeRole
  obtain ⟨_, hdelete⟩ := hcalls.deleteRole
  unfold removeRBACObjects
  refine Returns.bind (Q := (· = false)) ?_ fun _ h1 => (hdel ..).bind fun _ h2 =>
    Returns.bind (Q := (· = false)) ?_ fun _ h3 => returns_pure (by simp [h1, h2, h3])
  · split
    · exact (hdel ..).bind fun _ h1 => (hdel ..).bind fun _ h2 => returns_pure (by simp [h1, h2])
    · refine Returns.bind (Q := fun _ => True) ?_ fun _ _ =>
        Returns.bind (Q := fun _ => True) ?_ fun _ _ => returns_pure rfl
      · rw [hremove]; exact ⟨(), rfl, trivial⟩
      · rw [hdelete]; exact ⟨(), rfl, trivial⟩
  · split
    · exact ⟨false, by rw [result_bestEffort, hcalls.removeSCCUser]; rfl, rfl⟩
    · exact returns_pure rfl

theorem returns_createRBACObjects : Returns (createRBACObjects cfg env) fun _ => True := by
  obtain ⟨_, hcreate⟩ := hcalls.createRole
  obtain ⟨_, hadd⟩ := hcalls.addRole
  have hblock : ∀ o path m failure created, Returns
      (createObjectFromFileOrYAML cfg env o path none m [] failure created) fun _ => True :=
    fun o path m failure created => returns_createObjectFromFileOrYAML cfg env hcalls o path none m []
      failure created (by simp)
  unfold createRBACObjects
  refine (hblock ..).bind fun _ _ => ?_
  split
  · refine (hblock ..).bind fun _ _ => (hblock ..).bind fun _ _ => ?_
    split
    · rw [hcalls.addSCCUser]
      exact ⟨(), rfl, trivial⟩
    · exact returns_pure trivial
  · refine Returns.bind (Q := fun _ => True) ?_ fun _ _ => ?_
    · rw [hcreate]; exact ⟨(), rfl, trivial⟩
    · rw [hadd]; exact ⟨(), rfl, trivial⟩

theorem returns_pvManifest (v : Volume) (hv : VolumeUsable env v) :
    Returns (pvManifest cfg env v) fun _ => True := by
  unfold pvManifest
  dsimp only
  by_cases hnfs : v.accessInfo.nfsServerIP ≠ ""
  · rw [if_pos hnfs]
    exact returns_pure trivial
  obtain ⟨hportal, hchap⟩ := hv.resolve_left hnfs
  rw [if_neg hnfs, if_pos hportal]
  by_cases hsecret : v.accessInfo.iscsiTargetSecret ≠ ""
  · obtain ⟨hversion, b, hexists⟩ := hchap hsecret
    rw [if_pos hsecret, hversion]
    unfold createCHAPSecret createSecretUnlessExists
    cases b <;> simp [hexists, hcalls.create] <;> exact ⟨_, rfl, trivial⟩
  · rw [if_neg hsecret]
    exact returns_pure trivial

theorem returns_createPV (sb : Backend) (hsb : sb.storage ≠ [] ∧
      ∀ v, env.addVolume (volumeConfig cfg sb) (choosePool env sb) = .ok v → VolumeUsable env v) :
    Returns (createPV cfg env sb) fun _ => True := by
  obtain ⟨v, hv⟩ := hcalls.addVolume (volumeConfig cfg sb) (choosePool env sb)
  unfold createPV addVolume
  rw [if_neg hsb.1, hv]
  refine Returns.bind (Q := (· = v)) ⟨v, rfl, rfl⟩ fun _ h => ?_
  subst h
  refine (returns_pvManifest cfg env hcalls _ (hsb.2 _ hv)).bind fun _ _ => ?_
  rw [invoke_bind, hcalls.create]
  exact ⟨(), rfl, trivial⟩

theorem returns_createWorkloads (hov : OverridesValid cfg env) :
    Returns (createWorkloads cfg env) fun _ => True := by
  unfold createWorkloads
  split
  · rename_i hcsi
    exact (returns_createObjectFromFileOrYAML cfg env hcalls _ _ _ _ _ _ _ (by
        rintro _ _ ⟨⟩; exact hov.service hcsi)).bind fun _ _ =>
      (returns_createObjectFromFileOrYAML cfg env hcalls _ _ _ _ _ _ _ (by
        rintro _ _ ⟨⟩; exact hov.statefulSet hcsi)).bind fun _ _ =>
      returns_createObjectFromFileOrYAML cfg env hcalls _ _ _ _ _ _ _ (by
        rintro _ _ ⟨⟩; exact hov.daemonSet hcsi)
  · rename_i hcsi
    exact returns_createObjectFromFileOrYAML cfg env hcalls _ _ _ _ _ _ _ (by
      rintro _ _ ⟨⟩; exact hov.deployment (by simpa using hcsi))

end Steps

/-! ## The pod the wait returns -/

theorem podRunningAttempt_eq_ok (env : Env) (i : Nat) (pod : Pod) :
    podRunningAttempt env i = .ok pod ↔ env.getPodByLabel i = .ok pod ∧ pod.phase = "Running" := by
  unfold podRunningAttempt
  cases env.getPodByLabel i with
  | ok q =>
      by_cases hq : q.phase = "Running"
      · simp only [hq, ite_true, Except.ok.injEq]
        exact ⟨fun h => ⟨h, h ▸ hq⟩, And.left⟩
      · simp only [hq, ite_false]
        exact ⟨nofun, fun ⟨h, hr⟩ => absurd (Except.ok.inj h ▸ hr) hq⟩
  | error e => simp

theorem podRunningAttempt_eq_error (env : Env) (i : Nat)
    (h : ∀ q, env.getPodByLabel i = .ok q → q.phase ≠ "Running") :
    ∃ e, podRunningAttempt env i = .error e := by
  cases hp : podRunningAttempt env i with
  | error e => exact ⟨e, rfl⟩
  | ok q =>
      obtain ⟨hq, hr⟩ := (podRunningAttempt_eq_ok env i q).mp hp
      exact absurd hr (h q hq)

/-- The pod the wait returns was seen running at an attempt within the schedule. -/
theorem running_of_waitForTridentPod (cfg : Config) (env : Env) {pod : Pod}
    (h : (waitForTridentPod cfg env).result = .ok pod) :
    ∃ k ≤ env.podBackOff.length, env.getPodByLabel k = .ok pod ∧ pod.phase = "Running" := by
  obtain ⟨j, hj, -, hjle⟩ := retryNotify_result (podRunningAttempt env)
    (fun d => ⟨.debug, "Trident pod not yet running, waiting.", [("increment", .duration d)]⟩) 0
    env.podBackOff
  cases hop : podRunningAttempt env j with
  | error e =>
      simp only [waitForTridentPod, log_bind, result_bind_ok _ hj, hop, result_fail] at h
      cases h
  | ok q =>
      simp only [waitForTridentPod, log_bind, result_bind_ok _ hj, hop, result_pure] at h
      cases h
      exact ⟨j, by omega, (podRunningAttempt_eq_ok env j _).mp hop⟩

/-- When the first attempt that sees the pod running is within the schedule, the wait
notifies once per earlier interval and returns that pod. -/
theorem waitForTridentPod_of_first_running (cfg : Config) (env : Env) (k : Nat) (pod : Pod)
    (hk : k ≤ env.podBackOff.length)
    (hbefore : ∀ j < k, ∀ q, env.getPodByLabel j = .ok q → q.phase ≠ "Running")
    (hpod : env.getPodByLabel k = .ok pod) (hrunning : pod.phase = "Running") :
    (waitForTridentPod cfg env).result = .ok pod ∧
      (waitForTridentPod cfg env).events =
        .log ⟨.info, "Waiting for Trident pod to start.", []⟩ ::
          (env.podBackOff.take k).map (fun d => .log ⟨.debug, "Trident pod not yet running, waiting.",
            [("increment", .duration d)]⟩) ++
          [.log ⟨.info, "Trident pod started.",
            [("pod", .str pod.name), ("namespace", .str cfg.namespace_)]⟩] := by
  obtain ⟨hevents, hresult⟩ := retryNotify_of_first_ok (podRunningAttempt env)
    (fun d => ⟨.debug, "Trident pod not yet running, waiting.", [("increment", .duration d)]⟩) pod 0
    env.podBackOff k hk (fun j hj => by simpa using podRunningAttempt_eq_error env j (hbefore j hj))
    (by simpa using (podRunningAttempt_eq_ok env k pod).mpr ⟨hpod, hrunning⟩)
  unfold waitForTridentPod
  simp only [log_bind, events_bind_ok _ hresult, result_bind_ok _ hresult, hevents]
  exact ⟨rfl, rfl⟩

/-- The pod the wait returns is the first one an attempt saw running: the wait stops at
the first attempt that succeeds. -/
theorem firstRunning_of_waitForTridentPod (cfg : Config) (env : Env) {pod : Pod}
    (h : (waitForTridentPod cfg env).result = .ok pod) : FirstRunning env pod := by
  classical
  obtain ⟨k, hk, hpod, hrunning⟩ := running_of_waitForTridentPod cfg env h
  have hsome : ∃ k, k ≤ env.podBackOff.length ∧ ∃ q, podRunningAttempt env k = .ok q :=
    ⟨k, hk, pod, (podRunningAttempt_eq_ok env k pod).mpr ⟨hpod, hrunning⟩⟩
  obtain ⟨hk, q, hq⟩ := Nat.find_spec hsome
  obtain ⟨hqpod, hqrun⟩ := (podRunningAttempt_eq_ok env _ q).mp hq
  have hbefore : ∀ j < Nat.find hsome, ∀ q, env.getPodByLabel j = .ok q → q.phase ≠ "Running" :=
    fun j hj q hq hr =>
      Nat.find_min hsome hj ⟨by omega, q, (podRunningAttempt_eq_ok env j q).mpr ⟨hq, hr⟩⟩
  obtain rfl : q = pod := Except.ok.inj
    ((waitForTridentPod_of_first_running cfg env _ q hk hbefore hqpod hqrun).1.symm.trans h)
  exact ⟨_, hk, hqpod, hqrun, hbefore⟩

/-- The pod wait returns a pod exactly when an attempt within the back-off schedule sees
it running, and returns the first pod so seen: no earlier attempt saw a running pod. -/
theorem waitForTridentPod_returns_first_running (cfg : Config) (env : Env) (pod : Pod) :
    (waitForTridentPod cfg env).result = .ok pod ↔
      ∃ k ≤ env.podBackOff.length, env.getPodByLabel k = .ok pod ∧ pod.phase = "Running" ∧
        ∀ j < k, ∀ q, env.getPodByLabel j = .ok q → q.phase ≠ "Running" :=
  ⟨firstRunning_of_waitForTridentPod cfg env, fun ⟨k, hk, hpod, hrunning, hbefore⟩ =>
    (waitForTridentPod_of_first_running cfg env k pod hk hbefore hpod hrunning).1⟩

/-! ## The REST interface the wait reaches -/

theorem restAttempt_eq_ok (env : Env) (podName : String) (i : Nat) (version : String) :
    restAttempt env podName i = .ok version ↔
      (env.exec podName i).2 = none ∧ env.unmarshalVersion (env.exec podName i).1 = .ok version := by
  unfold restAttempt
  cases env.exec podName i with
  | mk output err => cases err <;> simp

/-- The REST wait returns only after an attempt within the schedule got a version from
the pod. -/
theorem version_of_waitForRESTInterface (cfg : Config) (env : Env) (podName : String)
    (h : (waitForRESTInterface cfg env podName).result = .ok ()) :
    ∃ j ≤ env.restBackOff.length, ∃ version, restAttempt env podName j = .ok version := by
  obtain ⟨j, hj, -, hjle⟩ := retryNotify_result (restAttempt env podName)
    (fun d => ⟨.debug, "REST interface not yet up, waiting.", [("increment", .duration d)]⟩) 0
    env.restBackOff
  cases hop : restAttempt env podName j with
  | error e =>
      simp only [waitForRESTInterface, log_bind, result_bind_ok _ hj, hop, result_fail] at h
      cases h
  | ok version => exact ⟨j, by omega, version, hop⟩

/-! ## The waits -/

section Waits

variable (cfg : Config) (env : Env) (hwaits : WaitsSucceed env)
include hwaits

theorem returns_waitForPVCBound : Returns (waitForPVCBound cfg env) fun _ => True := by
  unfold waitForPVCBound
  split
  · exact returns_pure trivial
  · rename_i hfirst
    obtain ⟨k, hk, hbound⟩ := hwaits.pvcBound
    cases k with
    | zero => simp [hbound] at hfirst
    | succ k =>
        obtain ⟨j, _, hj⟩ := (retryNotify_ok_iff (pvcBoundAttempt env) _ 1 env.pvcBackOff).mpr
          ⟨k, by omega, (), by rwa [Nat.add_comm]⟩
        exact (returns_log ..).bind fun _ _ => ⟨(), by rw [result_bind_ok _ hj]; rfl, trivial⟩

theorem returns_waitForTridentPod : Returns (waitForTridentPod cfg env) (FirstRunning env) := by
  obtain ⟨k, hk, pod, hpod⟩ := hwaits.podRunning
  obtain ⟨j, p, hj⟩ := (retryNotify_ok_iff (podRunningAttempt env)
    (fun d => ⟨.debug, "Trident pod not yet running, waiting.", [("increment", .duration d)]⟩) 0
    env.podBackOff).mpr ⟨k, hk, pod, by rwa [Nat.zero_add]⟩
  have hp : (waitForTridentPod cfg env).result = .ok p := by
    simp only [waitForTridentPod, log_bind, result_bind_ok _ hj]
    rfl
  exact ⟨p, hp, firstRunning_of_waitForTridentPod cfg env hp⟩

theorem returns_waitForRESTInterface (pod : Pod) (hpod : FirstRunning env pod) :
    Returns (waitForRESTInterface cfg env pod.name) fun _ => True := by
  obtain ⟨k, hk, version, hrest⟩ := hwaits.restUp pod hpod
  obtain ⟨j, v, hj⟩ := (retryNotify_ok_iff (restAttempt env pod.name) _ 0 env.restBackOff).mpr
    ⟨k, hk, version, by rwa [Nat.zero_add]⟩
  exact (returns_log ..).bind fun _ _ => ⟨(), by rw [result_bind_ok _ hj]; rfl, trivial⟩

end Waits

/-! ## The real run -/

theorem returns_install (cfg : Config) (env : Env) {p : Probed}
    (hp : (preChecks cfg env).result = .ok p) (hcalls : CallsSucceed env)
    (hwaits : WaitsSucceed env) (hov : OverridesValid cfg env) (hbackend : BackendUsable cfg env) :
    Returns (install cfg env p) fun _ => True := by
  obtain ⟨-, hpvc, hpv, hsb⟩ := preChecks_answers cfg env hp
  have hPV : Returns (createPVIfNeeded cfg env p.storageBackend) fun _ => True := by
    cases h : p.storageBackend with
    | none => exact returns_pure trivial
    | some sb =>
        rw [h] at hpv
        exact ((returns_createPV cfg env hcalls sb (hbackend hpv sb (hsb sb h))).wrap _).bind
          fun _ _ => returns_log ..
  unfold install
  exact (returns_log ..).bind fun _ _ =>
    (returns_onlyIf _ fun _ => returns_createObjectFromFileOrYAML cfg env hcalls _ _ _ _ _ _ _
      (by rintro _ _ ⟨⟩)).bind fun _ _ =>
    (returns_removeRBACObjects cfg env hcalls _).bind fun _ hr => hr ▸
    (returns_stopIf_false _).bind fun _ _ =>
    (returns_createRBACObjects cfg env hcalls).bind fun _ _ =>
    (returns_onlyIf _ fun hnew => returns_createObjectFromFileOrYAML cfg env hcalls _ _ _ _ _ _ _
      (by rintro _ _ ⟨⟩; exact hov.pvc (by simpa [hpvc] using hnew))).bind fun _ _ =>
    hPV.bind fun _ _ => (returns_waitForPVCBound cfg env hwaits).bind fun _ _ =>
    (returns_createWorkloads cfg env hcalls hov).bind fun _ _ =>
    (returns_waitForTridentPod cfg env hwaits).bind fun pod hpod =>
    ((returns_waitForRESTInterface cfg env hwaits pod hpod).wrap _).bind fun _ _ => returns_log ..

/-- The first run's environment with every create succeeding. -/
def healthyEnv : Env := { firstRunEnv with create := fun _ => none }

/-- The pre-checks do not read `--dry-run`. -/
theorem preChecks_dryRun (cfg : Config) (env : Env) (b : Bool) :
    preChecks {cfg with dryRun := b} env = preChecks cfg env :=
  rfl

/-- A dry run raises no false alarm.  For every configuration and environment, when the
dry run fails, the real run fails with the same error after the same events, and makes no
mutating call: the pre-checks found the problem, and the real run stops there too. -/
theorem dry_run_failure_is_real (cfg : Config) (env : Env) {e : String}
    (hdry : (installTrident {cfg with dryRun := true} env).result = .error e) :
    (installTrident {cfg with dryRun := false} env).events =
        (installTrident {cfg with dryRun := true} env).events ∧
      (installTrident {cfg with dryRun := false} env).result = .error e ∧
      NoCalls (installTrident {cfg with dryRun := false} env) := by
  have hpre : (preChecks cfg env).result = .error e := by
    rw [installTrident, preChecks_dryRun] at hdry
    cases hp : (preChecks cfg env).result with
    | error e' =>
        rw [result_bind_error _ hp] at hdry
        cases hdry
        rfl
    | ok p => simp [result_bind_ok _ hp] at hdry
  have hrun : ∀ b, (installTrident {cfg with dryRun := b} env).events = (preChecks cfg env).events ∧
      (installTrident {cfg with dryRun := b} env).result = .error e := fun b => by
    rw [installTrident, preChecks_dryRun]
    exact ⟨events_bind_error _ hpre, result_bind_error _ hpre⟩
  refine ⟨(hrun false).1.trans (hrun true).1.symm, (hrun false).2, ?_⟩
  unfold NoCalls
  rw [(hrun false).1]
  exact noCalls_preChecks cfg env

/-- A volume size that does not parse fails the dry run, and the real run the same way. -/
theorem bad_size_dry_run_is_real :
    (installTrident {sampleConfig with volumeSize := "2Gx", dryRun := false} healthyEnv).result =
      .error ("volume-size '2Gx' is invalid; quantities must match the regular expression " ++
        "'^([+-]?[0-9.]+)([eEinumkKMGTP]*[-+]?[0-9]*)$'") :=
  (dry_run_failure_is_real {sampleConfig with volumeSize := "2Gx"} healthyEnv (by decide)).2.1

end TridentInstaller
