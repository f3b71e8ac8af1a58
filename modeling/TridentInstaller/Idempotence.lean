import TridentInstaller.Rerun
import TridentInstaller.DryRun
set_option autoImplicit false

/-!
# A re-install after an install touches nothing

A successful run created the object the already-installed check looks for, no run deletes
it, and a run from a store that holds it stops in its pre-checks.  So every later run of
the session makes no mutating call.
-/

namespace TridentInstaller

open Run

/-! ## What a trace does to one object -/

@[simp] theorem steps_cons_call (c : Call) (err : Option String) (evs : List Event) :
    steps (.call c err :: evs) = c.step :: steps evs := rfl

theorem steps_cons_sublist (ev : Event) (evs : List Event) : (steps evs).Sublist (steps (ev :: evs)) := by
  cases ev with
  | call c err => exact List.sublist_cons_self _ _
  | _ => exact List.Sublist.refl _

/-- An event that is not a successful deletion of `o` keeps `o` in the store. -/
theorem Store.apply_eq_true {s : Store} {o : Obj} (ev : Event) (hs : s o = true)
    (hev : ∀ m, ev ≠ .call (.deleteObjectByYAML o m) none) : s.apply ev o = true := by
  unfold Store.apply
  split
  · simp [Function.update_apply, hs]
  · rename_i o' m
    rw [Function.update_noteq (by rintro rfl; exact hev m rfl)]
    exact hs
  · simp [Function.update_apply, hs]
  · exact hs

/-- A trace without a deletion of `o` keeps `o` in the store. -/
theorem applyAll_eq_true_of_not_delete {o : Obj} (evs : List Event) {s : Store} (hs : s o = true)
    (hdel : Step.delete o ∉ steps evs) : (s.applyAll evs) o = true := by
  induction evs generalizing s with
  | nil => exact hs
  | cons ev evs ih =>
      refine ih (Store.apply_eq_true ev hs fun m h => hdel ?_)
        fun h => hdel ((steps_cons_sublist ev evs).subset h)
      subst h
      exact List.mem_cons_self _ _

/-- A trace that creates `o` and never deletes it leaves `o` in the store. -/
theorem applyAll_eq_true_of_created {o : Obj} {body : Body} (evs : List Event) (s : Store)
    (hcreate : (Call.createObject o body, none) ∈ callsOf evs) (hdel : Step.delete o ∉ steps evs) :
    (s.applyAll evs) o = true := by
  induction evs generalizing s with
  | nil => cases hcreate
  | cons ev evs ih =>
      have htail : Step.delete o ∉ steps evs := fun h => hdel ((steps_cons_sublist ev evs).subset h)
      rw [Store.applyAll_cons]
      cases ev with
      | call c err =>
          rcases List.mem_cons.mp hcreate with h | h
          · obtain ⟨rfl, rfl⟩ := Prod.mk.inj h
            exact applyAll_eq_true_of_not_delete evs (by simp [Store.apply]) htail
          · exact ih _ h htail
      | probe => exact ih _ hcreate htail
      | log => exact ih _ hcreate htail
      | writeFile => exact ih _ hcreate htail
      | removeFile => exact ih _ hcreate htail

/-! ## What an install run does to the installed object -/

/-- The plan deletes only RBAC objects. -/
theorem installPlan_deletes {o : Obj} {csi native openShift createNamespace createPVC createPV
    createSecret : Bool}
    (h : Step.delete o ∈ installPlan csi native openShift createNamespace createPVC createPV
      createSecret) :
    o = .clusterRoleBinding ∨ o = .clusterRole ∨ o = .serviceAccount := by
  simp only [installPlan, List.mem_append, List.mem_ite_nil_right, List.mem_singleton, reduceCtorEq,
    and_false, false_or, or_false] at h
  rcases h with ((h | h) | ⟨-, h⟩) | h
  · cases native <;> cases openShift <;> simp_all [teardownPlan]
  · cases native <;> cases openShift <;> simp_all [rbacPlan]
  · cases createSecret <;> simp_all [pvPlan]
  · cases csi <;> simp_all [workloadPlan]

/-- No run deletes the object the already-installed check looks for. -/
theorem installedObject_not_deleted (cfg : Config) (env : Env) :
    Step.delete (installedObject cfg.csi) ∉ steps (installTrident cfg env).events := by
  obtain ⟨_, _, _, _, -, -, -, -, hfollows⟩ := follows_installTrident cfg env
  intro h
  have hplan := hfollows.withinPlan.subset h
  split at hplan
  · cases hplan
  · have hrbac := installPlan_deletes hplan
    unfold installedObject at hrbac
    split at hrbac <;> simp at hrbac

/-- A successful run that is not a dry run has created the installed object. -/
theorem created_installedObject (cfg : Config) (env : Env) (hdry : cfg.dryRun = false)
    (hok : (installTrident cfg env).result = .ok ()) :
    ∃ body, (Call.createObject (installedObject cfg.csi) body, none) ∈
      callsOf (installTrident cfg env).events := by
  obtain ⟨_, _, _, _, -, -, -, -, hfollows⟩ := follows_installTrident cfg env
  have hmem : Step.create (installedObject cfg.csi) ∈ steps (installTrident cfg env).events := by
    rw [hfollows.wholePlan () hok, hdry, if_neg Bool.false_ne_true]
    unfold installPlan workloadPlan installedObject
    cases cfg.csi <;> simp
  obtain ⟨⟨c, err⟩, hc, hstep⟩ := List.mem_map.mp hmem
  cases c <;> simp only [Call.step, reduceCtorEq, Step.create.injEq] at hstep
  subst hstep
  cases err with
  | none => exact ⟨_, hc⟩
  | some e =>
      obtain ⟨pre, post, hsplit⟩ := List.append_of_mem hc
      obtain ⟨-, msg, hmsg⟩ := hfollows.halts pre _ e post hsplit rfl
      rw [hok] at hmsg
      cases hmsg

/-- A run from a store that holds the installed object, whose probes read the store,
stops in its pre-checks. -/
theorem noCalls_installTrident_of_installed (cfg : Config) (env : Env) (s : Store)
    (hinv : StoreInv s) (hs : s (installedObject cfg.csi) = true)
    (hagree : Along ProbeAgrees s (installTrident cfg env).events) :
    NoCalls (installTrident cfg env) := by
  unfold NoCalls installTrident at *
  cases hpre : (preChecks cfg env).result with
  | error e =>
      rw [events_bind_error _ hpre]
      exact noCalls_preChecks cfg env
  | ok p =>
      rw [events_bind_ok _ hpre, along_append] at hagree
      obtain ⟨-, -, hq⟩ := triple_preChecks cfg env s trivial hinv hagree.1
      have habsent := (hq p hpre).1
      rw [applyAll_of_callsOf_eq_nil s (noCalls_preChecks cfg env), hs] at habsent
      cases habsent

/-- A dry run makes no mutating call. -/
theorem noCalls_installTrident_of_dryRun (cfg : Config) (env : Env) (hdry : cfg.dryRun = true) :
    NoCalls (installTrident cfg env) :=
  .bind (noCalls_preChecks cfg env) fun _ => by
    rw [if_pos hdry]
    exact noCalls_log ..

/-! ## Every session -/

/-- From a store that holds the installed object, no run of a session makes a call. -/
theorem session_from_installed_makes_no_calls (cfg : Config) (s : Store) (hinv : StoreInv s)
    (hs : s (installedObject cfg.csi) = true) (envs : List Env)
    (h : EveryRun (fun s evs => Along ProbeAgrees s evs) s (installTraces cfg envs)) :
    ∀ env ∈ envs, NoCalls (installTrident cfg env) := by
  induction envs with
  | nil => intro _ hmem; cases hmem
  | cons env envs ih =>
      obtain ⟨hagree, hrest⟩ := h
      have hquiet := noCalls_installTrident_of_installed cfg env s hinv hs hagree
      rw [applyAll_of_callsOf_eq_nil s hquiet] at hrest
      rintro env' (_ | ⟨_, hmem⟩)
      · exact hquiet
      · exact ih hrest env' hmem

/-- Once a run of a session has created the installed object, whatever became of the
run afterwards, no later run makes a call. -/
theorem noCalls_after_created (cfg : Config) (s : Store) (hs : StoreInv s)
    (envs₁ envs₂ : List Env) (env : Env)
    (h : EveryRun (fun s evs => Along ProbeAgrees s evs) s (installTraces cfg (envs₁ ++ env :: envs₂)))
    {body : Body}
    (hcreate : (Call.createObject (installedObject cfg.csi) body, none) ∈
      callsOf (installTrident cfg env).events) :
    ∀ env' ∈ envs₂, NoCalls (installTrident cfg env') := by
  induction envs₁ generalizing s with
  | nil =>
      obtain ⟨hagree, hrest⟩ := h
      obtain ⟨-, hinv, -⟩ := triple_installTrident cfg env s trivial hs hagree
      exact session_from_installed_makes_no_calls cfg _ hinv
        (applyAll_eq_true_of_created _ s hcreate (installedObject_not_deleted cfg env)) envs₂ hrest
  | cons e envs₁ ih =>
      obtain ⟨hagree, hrest⟩ := h
      exact ih _ (triple_installTrident cfg e s trivial hs hagree).2.1 hrest

/-- In every session of install runs with one configuration, started from a store in
which no daemonset stands without its statefulset and answered by probes that read the
store: once a run has succeeded, no later run makes a mutating call.  Each later run
finds Trident installed and stops before its first call. -/
theorem session_after_install_makes_no_calls (cfg : Config) (s : Store) (hs : StoreInv s)
    (envs₁ envs₂ : List Env) (env : Env)
    (h : EveryRun (fun s evs => Along ProbeAgrees s evs) s (installTraces cfg (envs₁ ++ env :: envs₂)))
    (hok : (installTrident cfg env).result = .ok ()) :
    ∀ env' ∈ envs₂, NoCalls (installTrident cfg env') := by
  cases hdry : cfg.dryRun
  · obtain ⟨body, hcreate⟩ := created_installedObject cfg env hdry hok
    exact noCalls_after_created cfg s hs envs₁ envs₂ env h hcreate
  · exact fun env' _ => noCalls_installTrident_of_dryRun cfg env' hdry

/-- The healthy cluster once Trident is installed: the deployment check reports it. -/
def reinstallEnv : Env := { healthyEnv with isTridentInstalled := .ok (true, "trident") }

/-- A session on an empty cluster: the first run installs, the re-run stops. -/
theorem reinstall_after_install_makes_no_calls :
    StoreInv Store.empty ∧
      EveryRun (fun s evs => Along ProbeAgrees s evs) Store.empty
        (installTraces sampleConfig ([] ++ healthyEnv :: [reinstallEnv])) ∧
      (installTrident sampleConfig healthyEnv).result = .ok () ∧
      ∀ env' ∈ [reinstallEnv], NoCalls (installTrident sampleConfig env') :=
  have hs : StoreInv Store.empty := by decide
  have h : EveryRun (fun s evs => Along ProbeAgrees s evs) Store.empty
      (installTraces sampleConfig ([] ++ healthyEnv :: [reinstallEnv])) := by decide
  have hok : (installTrident sampleConfig healthyEnv).result = .ok () := by decide
  ⟨hs, h, hok, session_after_install_makes_no_calls sampleConfig Store.empty hs [] [reinstallEnv]
    healthyEnv h hok⟩

/-- A run that stops part-way blocks the next.  In every session as above, once a run has
created Trident's deployment (its statefulset in CSI mode), whether it then succeeded or
failed, for instance waiting for the pod, no later run makes a mutating call: each finds
Trident installed and stops before its first call.  Nothing but an uninstall lets a later
run proceed. -/
theorem session_after_partial_install_makes_no_calls (cfg : Config) (s : Store)
    (hs : StoreInv s) (envs₁ envs₂ : List Env) (env : Env)
    (h : EveryRun (fun s evs => Along ProbeAgrees s evs) s (installTraces cfg (envs₁ ++ env :: envs₂)))
    {body : Body}
    (hcreate : (Call.createObject (installedObject cfg.csi) body, none) ∈
      callsOf (installTrident cfg env).events) :
    ∀ env' ∈ envs₂, NoCalls (installTrident cfg env') :=
  noCalls_after_created cfg s hs envs₁ envs₂ env h hcreate

/-- A healthy cluster whose Trident pod stays pending through two back-off intervals. -/
def pendingPodEnv : Env :=
  { healthyEnv with
    getPodByLabel := fun _ => .ok ⟨"trident-0", "Pending", ""⟩
    podBackOff := [1000000000, 2000000000] }

/-- The cluster once the deployment of a failed run stands: the deployment check reports
it. -/
def stalledReinstallEnv : Env := { pendingPodEnv with isTridentInstalled := .ok (true, "trident") }

/-- A session on an empty cluster: the first run creates the deployment and fails waiting
for a pod that never runs; the re-run stops. -/
theorem rerun_after_pod_timeout_makes_no_calls :
    StoreInv Store.empty ∧
      EveryRun (fun s evs => Along ProbeAgrees s evs) Store.empty
        (installTraces sampleConfig ([] ++ pendingPodEnv :: [stalledReinstallEnv])) ∧
      (Call.createObject .deployment (.yaml (.deploymentYAML "trident" "netapp/trident:18.07.0"
        "quay.io/coreos/etcd:v3.2.19" "trident.netapp.io" false)), none) ∈
        callsOf (installTrident sampleConfig pendingPodEnv).events ∧
      ∀ env' ∈ [stalledReinstallEnv], NoCalls (installTrident sampleConfig env') :=
  have hs : StoreInv Store.empty := by decide
  have h : EveryRun (fun s evs => Along ProbeAgrees s evs) Store.empty
      (installTraces sampleConfig ([] ++ pendingPodEnv :: [stalledReinstallEnv])) := by decide
  have hcreate : (Call.createObject .deployment (.yaml (.deploymentYAML "trident"
      "netapp/trident:18.07.0" "quay.io/coreos/etcd:v3.2.19" "trident.netapp.io" false)), none) ∈
        callsOf (installTrident sampleConfig pendingPodEnv).events := by
    decide
  ⟨hs, h, hcreate, session_after_partial_install_makes_no_calls sampleConfig Store.empty hs []
    [stalledReinstallEnv] pendingPodEnv h hcreate⟩

end TridentInstaller
