import TridentInstaller.Footprint
set_option autoImplicit false

/-!
# What a run's calls and its success depend on

The workloads are created only after the PVC wait, the one volume is allocated on a pool
of the loaded backend, the PV follows its volume's allocation, and a successful run has
seen the PVC bound, a pod running and that pod's REST interface answer.  The proofs walk
the mutation phase one bind at a time (`Follows.call_in_bind`).
-/

namespace TridentInstaller

open Run

/-! ## Calls past a bind -/

/-- A call of a bind is a call of its first run, or of its continuation once the first
run succeeded. -/
theorem mem_callsOf_bind {α β : Type} {x : Run α} {f : α → Run β} {call : Call × Option String}
    (h : call ∈ callsOf (x >>= f).events) :
    call ∈ callsOf x.events ∨ ∃ a, x.result = .ok a ∧ call ∈ callsOf (f a).events := by
  cases hx : x.result with
  | ok a =>
      rw [events_bind_ok f hx, callsOf_append, List.mem_append] at h
      exact h.imp_right fun h => ⟨a, rfl, h⟩
  | error e =>
      rw [events_bind_error f hx] at h
      exact .inl h

/-- A run that follows a plan without the step of `c` never makes `c`. -/
theorem Follows.not_mem_call {α : Type} {x : Run α} {p : List Step} (h : Follows x p) {c : Call}
    (hp : c.step ∉ p) (err : Option String) : (c, err) ∉ callsOf x.events :=
  fun hc => hp (h.withinPlan.subset (List.mem_map.mpr ⟨_, hc, rfl⟩))

/-- A call of a bind whose first run plans no such step comes after that run succeeded. -/
theorem Follows.call_in_bind {α β : Type} {x : Run α} {f : α → Run β} {p : List Step}
    (h : Follows x p) {c : Call} (hp : c.step ∉ p) {err : Option String}
    (hc : (c, err) ∈ callsOf (x >>= f).events) :
    ∃ a, x.result = .ok a ∧ (c, err) ∈ callsOf (f a).events :=
  (mem_callsOf_bind hc).resolve_left (h.not_mem_call hp err)

/-- The calls of a bind's continuation end its calls. -/
theorem callsOf_suffix_bind {α β : Type} {x : Run α} {f : α → Run β} {a : α}
    (h : x.result = .ok a) : callsOf (f a).events <:+ callsOf (x >>= f).events := by
  rw [events_bind_ok f h, callsOf_append]
  exact List.suffix_append _ _

/-- The calls of a bind's first run begin its calls. -/
theorem callsOf_prefix_bind {α β : Type} (x : Run α) (f : α → Run β) :
    callsOf x.events <+: callsOf (x >>= f).events := by
  cases hx : x.result with
  | ok a => rw [events_bind_ok f hx, callsOf_append]; exact List.prefix_append _ _
  | error e => rw [events_bind_error f hx]

/-- `Follows.call_in_bind` inside a run: the rest of the run keeps its place among the
calls of the whole. -/
theorem Follows.peel {α β : Type} {x : Run α} {f : α → Run β} {p : List Step} (h : Follows x p)
    {c : Call} (hp : c.step ∉ p) {err : Option String} {whole : List (Call × Option String)}
    (hc : (c, err) ∈ callsOf (x >>= f).events ∧ callsOf (x >>= f).events <:+ whole) :
    ∃ a, x.result = .ok a ∧ (c, err) ∈ callsOf (f a).events ∧ callsOf (f a).events <:+ whole :=
  let ⟨a, ha, hmem⟩ := h.call_in_bind hp hc.1
  ⟨a, ha, hmem, (callsOf_suffix_bind ha).trans hc.2⟩

/-! ## The PVC wait -/

theorem pvcBoundAttempt_eq_ok (env : Env) (i : Nat) :
    pvcBoundAttempt env i = .ok () ↔ env.checkPVCBound i = .ok true := by
  unfold pvcBoundAttempt
  split <;> simp_all

/-- The PVC wait returns only after `CheckPVCBound` answered `true`, at the first check or
at an attempt of the schedule. -/
theorem bound_of_waitForPVCBound (cfg : Config) (env : Env)
    (h : (waitForPVCBound cfg env).result = .ok ()) :
    ∃ k ≤ env.pvcBackOff.length + 1, env.checkPVCBound k = .ok true := by
  unfold waitForPVCBound at h
  cases h0 : pvcBoundAttempt env 0 with
  | ok _ => exact ⟨0, Nat.zero_le _, (pvcBoundAttempt_eq_ok env 0).mp h0⟩
  | error _ =>
      obtain ⟨j, hj, -, hjle⟩ := retryNotify_result (pvcBoundAttempt env)
        (fun d => ⟨.debug, "PVC not yet bound, waiting.",
          [("pvc", .str cfg.pvcName), ("increment", .duration d)]⟩) 1 env.pvcBackOff
      cases hop : pvcBoundAttempt env j with
      | ok _ => exact ⟨j, by omega, (pvcBoundAttempt_eq_ok env j).mp hop⟩
      | error _ => simp [h0, log_bind, result_bind_ok _ hj, hop] at h

/-! ## Every run -/

/-- No step before the wait creates a workload. -/
theorem workloads_not_prior {o : Obj} {csi : Bool} (native : Bool) (ho : o ∈ workloads csi) :
    o ∉ rbacObjects native ∧ o ≠ .namespace_ ∧ o ≠ .pvc ∧ o ≠ .pv ∧ o ≠ .chapSecret := by
  revert o
  cases csi <;> cases native <;> decide

/-- In every run, whatever the collaborators answer, the Trident workloads are created
only once the PVC has been seen bound. -/
theorem workloads_created_after_pvc_bound (cfg : Config) (env : Env) {o : Obj}
    (ho : o ∈ workloads cfg.csi) {body : Body} {err : Option String}
    (hc : (Call.createObject o body, err) ∈ callsOf (installTrident cfg env).events) :
    ∃ k ≤ env.pvcBackOff.length + 1, env.checkPVCBound k = .ok true := by
  obtain ⟨hrbac, hns, hpvc, hpv, hsecret⟩ := workloads_not_prior cfg.useKubernetesRBAC ho
  obtain ⟨p, -, hc⟩ := (noCalls_preChecks cfg env).follows.call_in_bind (List.not_mem_nil _) hc
  split at hc
  · cases hc
  obtain ⟨secret, -, hpvPlan⟩ := follows_createPVIfNeeded cfg env p.storageBackend
  obtain ⟨_, -, hc⟩ := (noCalls_log ..).follows.call_in_bind (List.not_mem_nil _) hc
  obtain ⟨_, -, hc⟩ := (follows_onlyIf _ (follows_createObjectFromFileOrYAML ..)).call_in_bind
    (by simp [Call.step, hns]) hc
  obtain ⟨_, -, hc⟩ := (follows_removeRBACObjects cfg env .debug).call_in_bind (by simp [Call.step]) hc
  obtain ⟨_, -, hc⟩ := (noCalls_stopIf ..).follows.call_in_bind (List.not_mem_nil _) hc
  obtain ⟨_, -, hc⟩ := (follows_createRBACObjects cfg env).call_in_bind (by simp [Call.step, hrbac]) hc
  obtain ⟨_, -, hc⟩ := (follows_onlyIf _ (follows_createObjectFromFileOrYAML ..)).call_in_bind
    (by simp [Call.step, hpvc]) hc
  obtain ⟨_, -, hc⟩ := hpvPlan.call_in_bind (by simp [Call.step, hpv, hsecret]) hc
  obtain ⟨_, hwait, -⟩ :=
    (noCalls_waitForPVCBound cfg env).follows.call_in_bind (List.not_mem_nil _) hc
  exact bound_of_waitForPVCBound cfg env hwait

/-- The default installation into a healthy cluster creates its deployment, after a bound
PVC. -/
theorem healthy_deployment_after_bound_pvc :
    Obj.deployment ∈ workloads sampleConfig.csi ∧
      (Call.createObject .deployment (.yaml (.deploymentYAML sampleConfig.pvcName
        sampleConfig.tridentImage sampleConfig.etcdImage sampleConfig.appLabelValue
        sampleConfig.debug)), none) ∈ callsOf (installTrident sampleConfig healthyEnv).events ∧
      ∃ k ≤ healthyEnv.pvcBackOff.length + 1, healthyEnv.checkPVCBound k = .ok true :=
  have ho : Obj.deployment ∈ workloads sampleConfig.csi := by decide
  have hc : (Call.createObject .deployment (.yaml (.deploymentYAML sampleConfig.pvcName
      sampleConfig.tridentImage sampleConfig.etcdImage sampleConfig.appLabelValue
      sampleConfig.debug)), none) ∈ callsOf (installTrident sampleConfig healthyEnv).events := by
    decide
  ⟨ho, hc, workloads_created_after_pvc_bound sampleConfig healthyEnv ho hc⟩

/-! ## The volume allocation -/

/-- `createPV` checks that the backend has pools, so the pool it picks is one of them. -/
theorem choosePool_mem (env : Env) {sb : Backend} (h : sb.storage ≠ []) :
    choosePool env sb ∈ sb.storage := by
  have hlen : 0 < sb.storage.length := List.length_pos.mpr h
  unfold choosePool
  rw [List.getD_eq_getElem?_getD, List.getElem?_eq_getElem (Nat.mod_lt _ hlen), Option.getD_some]
  exact List.getElem_mem _

/-- The only call `addVolume` makes is the allocation it was asked for. -/
theorem callsOf_addVolume (env : Env) (config : VolumeConfig) (pool : String) :
    ∀ call ∈ callsOf (addVolume env config pool).events, call.1 = .addVolume config pool := by
  unfold addVolume
  split <;> simp [invoke_bind]

@[simp] theorem addVolume_not_mem_teardownPlan (native openShift : Bool) :
    Step.addVolume ∉ teardownPlan native openShift := by
  cases native <;> cases openShift <;> simp [teardownPlan]

@[simp] theorem addVolume_not_mem_rbacPlan (native openShift : Bool) :
    Step.addVolume ∉ rbacPlan native openShift := by
  cases native <;> cases openShift <;> simp [rbacPlan]

@[simp] theorem addVolume_not_mem_workloadPlan (csi : Bool) : Step.addVolume ∉ workloadPlan csi := by
  cases csi <;> simp [workloadPlan]

/-- The plan allocates at most one volume. -/
theorem installPlan_count_addVolume (csi native openShift createNamespace createPVC createPV
    createSecret : Bool) :
    (installPlan csi native openShift createNamespace createPVC createPV createSecret).count
      .addVolume ≤ 1 := by
  have hpv : (if createPV then pvPlan createSecret else []).count .addVolume ≤ 1 := by
    cases createPV <;> cases createSecret <;> decide
  simp only [installPlan, List.count_append, List.count_eq_zero_of_not_mem,
    addVolume_not_mem_teardownPlan, addVolume_not_mem_rbacPlan, addVolume_not_mem_workloadPlan,
    not_false_eq_true, List.mem_ite_nil_right, List.mem_singleton, reduceCtorEq, and_false]
  omega

/-! ## The PV phase -/

/-- The steps of the PV phase belong to no other phase. -/
theorem pvPlan_not_prior {s : Step} (hs : s ∈ pvPlan true) (native openShift csi : Bool) :
    s ∉ teardownPlan native openShift ∧ s ∉ rbacPlan native openShift ∧
      s ≠ .create .namespace_ ∧ s ≠ .create .pvc ∧ s ∉ workloadPlan csi := by
  simp only [pvPlan, if_true, List.singleton_append, List.mem_cons, List.mem_singleton,
    List.mem_nil_iff, or_false] at hs
  rcases hs with rfl | rfl | rfl <;> cases native <;> cases csi <;> simp [rbacObjects, workloads]

/-- The allocation, the CHAP secret and the PV are `createPVIfNeeded`'s, on the backend the
pre-checks loaded, and its calls stand as one block among the run's. -/
theorem call_of_createPVIfNeeded (cfg : Config) (env : Env) {c : Call} (hstep : c.step ∈ pvPlan true)
    {err : Option String} (hc : (c, err) ∈ callsOf (installTrident cfg env).events) :
    ∃ p, (preChecks cfg env).result = .ok p ∧
      (c, err) ∈ callsOf (createPVIfNeeded cfg env p.storageBackend).events ∧
      callsOf (createPVIfNeeded cfg env p.storageBackend).events <:+:
        callsOf (installTrident cfg env).events := by
  obtain ⟨hteardown, hrbac, hns, hpvc, hworkloads⟩ := pvPlan_not_prior hstep
    cfg.useKubernetesRBAC (env.flavor == .openShift) cfg.csi
  obtain ⟨p, hpre, hc⟩ := (noCalls_preChecks cfg env).follows.peel (List.not_mem_nil _)
    ⟨hc, List.suffix_refl (callsOf (installTrident cfg env).events)⟩
  split at hc
  · cases hc.1
  obtain ⟨_, -, hc⟩ := (noCalls_log ..).follows.peel (List.not_mem_nil _) hc
  obtain ⟨_, -, hc⟩ := (follows_onlyIf _ (follows_createObjectFromFileOrYAML ..)).peel
    (by split <;> simp [hns]) hc
  obtain ⟨_, -, hc⟩ := (follows_removeRBACObjects cfg env .debug).peel hteardown hc
  obtain ⟨_, -, hc⟩ := (noCalls_stopIf ..).follows.peel (List.not_mem_nil _) hc
  obtain ⟨_, -, hc⟩ := (follows_createRBACObjects cfg env).peel hrbac hc
  obtain ⟨_, -, hmem, hsuffix⟩ := (follows_onlyIf _ (follows_createObjectFromFileOrYAML ..)).peel
    (by split <;> simp [hpvc]) hc
  refine ⟨p, hpre, ?_, (callsOf_prefix_bind _ _).isInfix.trans hsuffix.isInfix⟩
  refine (mem_callsOf_bind hmem).resolve_right fun ⟨_, _, hc⟩ => ?_
  -- nothing after the PV phase makes its calls
  obtain ⟨_, -, hc⟩ := (noCalls_waitForPVCBound cfg env).follows.call_in_bind (List.not_mem_nil _) hc
  obtain ⟨_, -, hc⟩ := (follows_createWorkloads cfg env).call_in_bind hworkloads hc
  obtain ⟨_, -, hc⟩ := (noCalls_waitForTridentPod cfg env).follows.call_in_bind (List.not_mem_nil _) hc
  obtain ⟨_, -, hc⟩ := (noCalls_wrap _ (noCalls_waitForRESTInterface ..)).follows.call_in_bind
    (List.not_mem_nil _) hc
  cases hc

/-- The calls of `createPVIfNeeded` are `createPV`'s, once a backend was loaded. -/
theorem mem_callsOf_createPVIfNeeded (cfg : Config) (env : Env) {backend : Option Backend}
    {call : Call × Option String} (hc : call ∈ callsOf (createPVIfNeeded cfg env backend).events) :
    ∃ sb, backend = some sb ∧ call ∈ callsOf (createPV cfg env sb).events ∧
      callsOf (createPV cfg env sb).events <+: callsOf (createPVIfNeeded cfg env backend).events := by
  cases backend with
  | none => cases hc
  | some sb =>
      exact ⟨sb, rfl, (mem_callsOf_bind hc).resolve_right fun ⟨_, _, h⟩ => (by cases h),
        callsOf_prefix_bind (wrap _ (createPV cfg env sb)) _⟩

/-- The allocation `createPV` makes is on one of the backend's pools, with the volume
config built for that backend. -/
theorem addVolume_of_createPV (cfg : Config) (env : Env) (sb : Backend) {config : VolumeConfig}
    {pool : String} {err : Option String}
    (hc : (Call.addVolume config pool, err) ∈ callsOf (createPV cfg env sb).events) :
    pool ∈ sb.storage ∧ config = volumeConfig cfg sb := by
  unfold createPV at hc
  split at hc
  · cases hc
  rename_i hstorage
  rcases mem_callsOf_bind hc with hc | ⟨v, -, hc⟩
  · obtain ⟨rfl, rfl⟩ := Call.addVolume.inj (callsOf_addVolume env _ _ _ hc)
    exact ⟨choosePool_mem env hstorage, rfl⟩
  · -- after the allocation come the CHAP secret and the PV
    obtain ⟨secret, -, hmanifest⟩ := follows_pvManifest cfg env v
    obtain ⟨_, -, hc⟩ := hmanifest.call_in_bind (by cases secret <;> simp [Call.step]) hc
    rw [invoke_bind, callsOf_cons_call] at hc
    simp [show callsOf (check _ _).events = [] from noCalls_check _ _] at hc

/-- In every run, whatever the collaborators answer, at most one volume is allocated,
and only on a pool of the backend the pre-checks loaded, with the configured volume name
and size. -/
theorem installTrident_allocates_on_backend_pool (cfg : Config) (env : Env) :
    (steps (installTrident cfg env).events).count .addVolume ≤ 1 ∧
      ∀ config pool err,
        (Call.addVolume config pool, err) ∈ callsOf (installTrident cfg env).events →
        ∃ sb, (loadStorageDriver cfg env).result = .ok sb ∧ pool ∈ sb.storage ∧
          config = volumeConfig cfg sb := by
  refine ⟨?_, fun config pool err hc => ?_⟩
  · obtain ⟨_, _, _, _, -, -, -, -, hfollows⟩ := follows_installTrident cfg env
    refine (hfollows.withinPlan.sublist.count_le _).trans ?_
    split
    · exact Nat.zero_le _
    · exact installPlan_count_addVolume ..
  obtain ⟨p, hpre, hc, -⟩ := call_of_createPVIfNeeded cfg env (by simp [pvPlan, Call.step]) hc
  obtain ⟨sb, hsb, hc, -⟩ := mem_callsOf_createPVIfNeeded cfg env hc
  obtain ⟨hpool, rfl⟩ := addVolume_of_createPV cfg env sb hc
  exact ⟨sb, (preChecks_answers cfg env hpre).2.2.2 sb hsb, hpool, rfl⟩

/-! ## The PV -/

/-- The secret a PV manifest names: the CHAP secret of an iSCSI PV with CHAP. -/
def Manifest.secretRef : Manifest → Option String
  | .chapISCSIPVYAML _ _ _ _ secretName _ _ _ _ => some secretName
  | _ => none

/-- `createCHAPSecret` returns a name only once a secret of that name existed or was
created. -/
theorem createCHAPSecret_present (env : Env) (v : Volume) {name : String}
    (h : (createCHAPSecret env v).result = .ok name) :
    env.checkSecretExists name = .ok true ∨ ∃ u i t,
      (Call.createObject .chapSecret (.yaml (.chapSecretYAML name u i t)), none) ∈
        callsOf (createCHAPSecret env v).events := by
  unfold createCHAPSecret at *
  cases hcheck : env.checkSecretExists (env.chapSecretName v) with
  | error e => simp only [log_bind, hcheck, expect_error, fail_bind] at h; cases h
  | ok present =>
    simp only [log_bind, hcheck, expect_ok, pure_bind, probe_bind, callsOf_cons_log,
      callsOf_cons_probe] at h ⊢
    obtain ⟨_, hunless, hname⟩ := result_bind_eq_ok.mp h
    cases hname
    cases present
    · -- absent: it is created, and a failed creation ends the run
      refine .inr ⟨v.accessInfo.iscsiUsername, v.accessInfo.iscsiInitiatorSecret,
        v.accessInfo.iscsiTargetSecret, (callsOf_prefix_bind _ _).subset ?_⟩
      unfold createSecretUnlessExists at hunless ⊢
      cases hcreate : env.create .chapSecret <;>
        simp only [if_false, log_bind, invoke_bind, hcreate, check_none, check_some, fail_bind,
          callsOf_cons_log, callsOf_cons_call, Bool.false_eq_true] at hunless ⊢
      · exact List.mem_cons_self _ _
      · cases hunless
    · exact .inl hcheck

/-- The manifests `pvManifest` returns: for NFS, for iSCSI with the CHAP secret
`createCHAPSecret` returned (whose calls are then all of the manifest's), or for iSCSI
without CHAP. -/
theorem pvManifest_eq_ok (cfg : Config) (env : Env) (v : Volume) {m : Manifest}
    (h : (pvManifest cfg env v).result = .ok m) :
    m = .nfsPVYAML cfg.pvName cfg.volumeSize cfg.pvcName cfg.namespace_ v.accessInfo.nfsServerIP
        v.accessInfo.nfsPath cfg.appLabelValue ∨
      (∃ name, (createCHAPSecret env v).result = .ok name ∧
        callsOf (pvManifest cfg env v).events = callsOf (createCHAPSecret env v).events ∧
        m = .chapISCSIPVYAML cfg.pvName cfg.volumeSize cfg.pvcName cfg.namespace_ name
          v.accessInfo.iscsiTargetPortal v.accessInfo.iscsiTargetIQN v.accessInfo.iscsiLunNumber
          cfg.appLabelValue) ∨
      m = .iscsiPVYAML cfg.pvName cfg.volumeSize cfg.pvcName cfg.namespace_
        v.accessInfo.iscsiTargetPortal v.accessInfo.iscsiTargetIQN v.accessInfo.iscsiLunNumber
        cfg.appLabelValue := by
  unfold pvManifest at *
  dsimp only at h ⊢
  by_cases hnfs : v.accessInfo.nfsServerIP ≠ ""
  · rw [if_pos hnfs] at h; cases h; exact .inl rfl
  by_cases hportal : v.accessInfo.iscsiTargetPortal ≠ ""
  · by_cases htarget : v.accessInfo.iscsiTargetSecret ≠ ""
    · by_cases hversion : (!env.version.atLeast Version.chapMin) = true
      · rw [if_neg hnfs, if_pos hportal, if_pos htarget, if_pos hversion] at h; cases h
      rw [if_neg hnfs, if_pos hportal, if_pos htarget, if_neg hversion] at h ⊢
      obtain ⟨name, hname, hm⟩ := result_bind_eq_ok.mp h
      cases hm
      refine .inr (.inl ⟨name, hname, ?_, rfl⟩)
      rw [events_bind_ok _ hname, callsOf_append]
      exact List.append_nil _
    · rw [if_neg hnfs, if_pos hportal, if_neg htarget] at h; cases h; exact .inr (.inr rfl)
  · rw [if_neg hnfs, if_neg hportal] at h; cases h

/-- A PV manifest that names a CHAP secret is built only once that secret existed or was
created. -/
theorem pvManifest_secret_present (cfg : Config) (env : Env) (v : Volume) {m : Manifest}
    (h : (pvManifest cfg env v).result = .ok m) {secret : String} (hs : m.secretRef = some secret) :
    env.checkSecretExists secret = .ok true ∨ ∃ u i t,
      (Call.createObject .chapSecret (.yaml (.chapSecretYAML secret u i t)), none) ∈
        callsOf (pvManifest cfg env v).events := by
  rcases pvManifest_eq_ok cfg env v h with rfl | ⟨name, hname, hcalls, rfl⟩ | rfl
  · cases hs
  · cases hs
    rw [hcalls]
    exact createCHAPSecret_present env v hname
  · cases hs

/-- An allocation that succeeded made one call, with no error. -/
theorem addVolume_eq_ok (env : Env) (config : VolumeConfig) (pool : String) {v : Volume}
    (h : (addVolume env config pool).result = .ok v) :
    env.addVolume config pool = .ok v ∧
      callsOf (addVolume env config pool).events = [(.addVolume config pool, none)] := by
  unfold addVolume at *
  split at h <;> simp_all [invoke_bind]

/-- A PV that `createPV` creates comes right after the volume it allocated and the calls of
that volume's manifest, and is that manifest. -/
theorem createPV_pv_block (cfg : Config) (env : Env) (sb : Backend) {m : Manifest}
    {err : Option String}
    (hc : (Call.createObject .pv (.yaml m), err) ∈ callsOf (createPV cfg env sb).events) :
    ∃ v, env.addVolume (volumeConfig cfg sb) (choosePool env sb) = .ok v ∧
      (pvManifest cfg env v).result = .ok m ∧
      (Call.addVolume (volumeConfig cfg sb) (choosePool env sb), none) ::
          callsOf (pvManifest cfg env v).events ++ [(Call.createObject .pv (.yaml m), err)] <+:
        callsOf (createPV cfg env sb).events := by
  unfold createPV at hc ⊢
  split at hc
  · cases hc
  rw [if_neg ‹_›]
  rcases mem_callsOf_bind hc with hc | ⟨v, hv, hc⟩
  · cases callsOf_addVolume env _ _ _ hc
  obtain ⟨secret, -, hmanifest⟩ := follows_pvManifest cfg env v
  obtain ⟨m', hm, hc⟩ := hmanifest.call_in_bind (by cases secret <;> simp [Call.step]) hc
  rw [invoke_bind, callsOf_cons_call, noCalls_check, List.mem_singleton] at hc
  obtain ⟨rfl, rfl⟩ : m = m' ∧ err = env.create .pv := by simpa using hc
  obtain ⟨hadd, hcalls⟩ := addVolume_eq_ok env _ _ hv
  refine ⟨v, hadd, hm, ?_⟩
  rw [events_bind_ok _ hv, events_bind_ok _ hm, invoke_bind]
  simp [hcalls, noCalls_check]

/-- Every PV a run creates is backed, whatever the collaborators answer.  It comes right
after the allocation of its volume, on a pool of the backend the pre-checks loaded, with
only the calls of that volume's manifest in between, and it is the manifest of that
volume.  A PV with CHAP names a secret that existed already, or that those calls in
between created. -/
theorem installTrident_pv_backed (cfg : Config) (env : Env) {m : Manifest} {err : Option String}
    (hc : (Call.createObject .pv (.yaml m), err) ∈ callsOf (installTrident cfg env).events) :
    ∃ sb v, (loadStorageDriver cfg env).result = .ok sb ∧ choosePool env sb ∈ sb.storage ∧
      env.addVolume (volumeConfig cfg sb) (choosePool env sb) = .ok v ∧
      (pvManifest cfg env v).result = .ok m ∧
      (Call.addVolume (volumeConfig cfg sb) (choosePool env sb), none) ::
          callsOf (pvManifest cfg env v).events ++ [(Call.createObject .pv (.yaml m), err)] <:+:
        callsOf (installTrident cfg env).events ∧
      ∀ secret, m.secretRef = some secret → env.checkSecretExists secret = .ok true ∨
        ∃ u i t, (Call.createObject .chapSecret (.yaml (.chapSecretYAML secret u i t)), none) ∈
          callsOf (pvManifest cfg env v).events := by
  obtain ⟨p, hpre, hc, hinfix⟩ := call_of_createPVIfNeeded cfg env (by simp [pvPlan, Call.step]) hc
  obtain ⟨sb, hsb, hc, hfront⟩ := mem_callsOf_createPVIfNeeded cfg env hc
  obtain ⟨v, hadd, hm, hblock⟩ := createPV_pv_block cfg env sb hc
  have hallocated : (Call.addVolume (volumeConfig cfg sb) (choosePool env sb), none) ∈
      callsOf (createPV cfg env sb).events := hblock.subset (List.mem_cons_self _ _)
  exact ⟨sb, v, (preChecks_answers cfg env hpre).2.2.2 sb hsb,
    (addVolume_of_createPV cfg env sb hallocated).1, hadd, hm,
    hblock.isInfix.trans (hfront.isInfix.trans hinfix),
    fun _ => pvManifest_secret_present cfg env v hm⟩

/-- The default installation into a healthy cluster creates its NFS PV right after the
volume. -/
theorem healthy_pv_backed :
    (Call.createObject .pv (.yaml (.nfsPVYAML "trident" "2Gi" "trident" "trident" "10.0.0.1"
        "/trident" "trident.netapp.io")), none) ∈ callsOf (installTrident sampleConfig healthyEnv).events ∧
      ∃ sb v, (loadStorageDriver sampleConfig healthyEnv).result = .ok sb ∧
        choosePool healthyEnv sb ∈ sb.storage ∧
        healthyEnv.addVolume (volumeConfig sampleConfig sb) (choosePool healthyEnv sb) = .ok v ∧
        (pvManifest sampleConfig healthyEnv v).result = .ok (.nfsPVYAML "trident" "2Gi" "trident"
          "trident" "10.0.0.1" "/trident" "trident.netapp.io") ∧
        (Call.addVolume (volumeConfig sampleConfig sb) (choosePool healthyEnv sb), none) ::
            callsOf (pvManifest sampleConfig healthyEnv v).events ++
              [(Call.createObject .pv (.yaml (.nfsPVYAML "trident" "2Gi" "trident" "trident" "10.0.0.1"
                "/trident" "trident.netapp.io")), none)] <:+:
          callsOf (installTrident sampleConfig healthyEnv).events ∧
        ∀ secret, (Manifest.nfsPVYAML "trident" "2Gi" "trident" "trident" "10.0.0.1" "/trident"
            "trident.netapp.io").secretRef = some secret →
          healthyEnv.checkSecretExists secret = .ok true ∨
            ∃ u i t, (Call.createObject .chapSecret (.yaml (.chapSecretYAML secret u i t)), none) ∈
              callsOf (pvManifest sampleConfig healthyEnv v).events :=
  have hc : (Call.createObject .pv (.yaml (.nfsPVYAML "trident" "2Gi" "trident" "trident"
      "10.0.0.1" "/trident" "trident.netapp.io")), none) ∈
        callsOf (installTrident sampleConfig healthyEnv).events := by
    decide
  ⟨hc, installTrident_pv_backed sampleConfig healthyEnv hc⟩

/-! ## A successful install -/

/-- A successful install leaves Trident ready, whatever the collaborators answer.  A run
of `installTrident` that is not a dry run returns without error only once the PVC was
seen bound, a Trident pod was seen running within the pod back-off schedule, and
`tridentctl version` inside that same pod answered with a version within the REST
back-off schedule. -/
theorem installTrident_ok_ready (cfg : Config) (env : Env) (hdry : cfg.dryRun = false)
    (hok : (installTrident cfg env).result = .ok ()) :
    (∃ k ≤ env.pvcBackOff.length + 1, env.checkPVCBound k = .ok true) ∧
      ∃ pod, (∃ k ≤ env.podBackOff.length, env.getPodByLabel k = .ok pod ∧
          pod.phase = "Running") ∧
        ∃ j ≤ env.restBackOff.length, (env.exec pod.name j).2 = none ∧
          ∃ version, env.unmarshalVersion (env.exec pod.name j).1 = .ok version := by
  obtain ⟨p, -, h⟩ := result_bind_eq_ok.mp hok
  rw [if_neg (by simp [hdry])] at h
  simp only [install, result_bind_eq_ok] at h
  -- every step of the mutation phase returned; the three waits are the ones that matter
  obtain ⟨_, -, _, -, _, -, _, -, _, -, _, -, _, -, _, hpvc, _, -, pod, hpod, _, hrest, -⟩ := h
  obtain ⟨j, hj, version, hversion⟩ := version_of_waitForRESTInterface cfg env pod.name
    ((result_wrap_eq_ok _).mp hrest)
  exact ⟨bound_of_waitForPVCBound cfg env hpvc, pod, running_of_waitForTridentPod cfg env hpod,
    j, hj, (restAttempt_eq_ok env pod.name j version).mp hversion |>.imp_right fun h => ⟨version, h⟩⟩

/-- The default installation into a healthy cluster succeeds, and is ready. -/
theorem healthy_install_ready :
    sampleConfig.dryRun = false ∧ (installTrident sampleConfig healthyEnv).result = .ok () ∧
      (∃ k ≤ healthyEnv.pvcBackOff.length + 1, healthyEnv.checkPVCBound k = .ok true) ∧
      ∃ pod, (∃ k ≤ healthyEnv.podBackOff.length, healthyEnv.getPodByLabel k = .ok pod ∧
          pod.phase = "Running") ∧
        ∃ j ≤ healthyEnv.restBackOff.length, (healthyEnv.exec pod.name j).2 = none ∧
          ∃ version, healthyEnv.unmarshalVersion (healthyEnv.exec pod.name j).1 = .ok version :=
  have hok : (installTrident sampleConfig healthyEnv).result = .ok () := by decide
  ⟨rfl, hok, installTrident_ok_ready sampleConfig healthyEnv rfl hok⟩

end TridentInstaller
