import TridentInstaller.PreChecks
set_option autoImplicit false

/-!
# The installation plan

The mutating calls of every run of `installTrident` are a prefix of one fixed plan of
`Step`s, all of it when the run succeeds, and a failed create ends the run.
`Follows x plan` says this of one run and composes along binds.
-/

namespace TridentInstaller

open Run

/-! ## Steps and plans -/

/-- A mutating call with its body forgotten. -/
inductive Step where
  | create (o : Obj)
  | delete (o : Obj)
  | addSCCUser
  | removeSCCUser
  | createUCPRole
  | addUCPRole
  | removeUCPRole
  | deleteUCPRole
  | addVolume
  deriving DecidableEq, Repr

/-- The step a call takes. -/
def Call.step : Call → Step
  | .createObject o _ => .create o
  | .deleteObjectByYAML o _ => .delete o
  | .addTridentUserToOpenShiftSCC => .addSCCUser
  | .removeTridentUserFromOpenShiftSCC => .removeSCCUser
  | .createTridentRole => .createUCPRole
  | .addTridentRoleToServiceAccount _ => .addUCPRole
  | .removeTridentRoleFromServiceAccount _ => .removeUCPRole
  | .deleteTridentRole => .deleteUCPRole
  | .addVolume _ _ => .addVolume

/-- Whether a call brings a new object into being: an object create or a volume
allocation. -/
def Call.allocates : Call → Bool
  | .createObject _ _ => true
  | .addVolume _ _ => true
  | _ => false

/-- The steps of a trace. -/
def steps (evs : List Event) : List Step := (callsOf evs).map fun c => c.1.step

/-- The object a step creates. -/
def Step.created : Step → Option Obj
  | .create o => some o
  | _ => none

/-- The objects a trace creates, in order. -/
def createdObjects (evs : List Event) : List Obj := (steps evs).filterMap Step.created

/-- (b) The RBAC teardown. -/
def teardownPlan (native openShift : Bool) : List Step :=
  if native then
    [.delete .clusterRoleBinding, .delete .clusterRole, .delete .serviceAccount] ++
      (if openShift then [.removeSCCUser] else [])
  else [.removeUCPRole, .deleteUCPRole, .delete .serviceAccount]

/-- (c) The RBAC creation. -/
def rbacPlan (native openShift : Bool) : List Step :=
  .create .serviceAccount ::
    if native then
      [.create .clusterRole, .create .clusterRoleBinding] ++ (if openShift then [.addSCCUser] else [])
    else [.createUCPRole, .addUCPRole]

/-- (e) The volume, its CHAP secret if one is made, and the PV. -/
def pvPlan (createSecret : Bool) : List Step :=
  .addVolume :: ((if createSecret then [.create .chapSecret] else []) ++ [.create .pv])

/-- (f) The workloads. -/
def workloadPlan (csi : Bool) : List Step :=
  if csi then [.create .csiService, .create .csiStatefulSet, .create .csiDaemonSet]
  else [.create .deployment]

/-- The plan of an installation: (a) to (f). -/
def installPlan (csi native openShift createNamespace createPVC createPV createSecret : Bool) :
    List Step :=
  (if createNamespace then [.create .namespace_] else []) ++ teardownPlan native openShift ++
    rbacPlan native openShift ++ (if createPVC then [.create .pvc] else []) ++
    (if createPV then pvPlan createSecret else []) ++ workloadPlan csi

/-- The condition on the CHAP secret step: the volume `AddVolume` returned carries a
target secret, and `CheckSecretExists` reported the volume's secret absent. -/
def NeedsCHAPSecret (cfg : Config) (env : Env) : Prop :=
  ∃ sb v, (loadStorageDriver cfg env).result = .ok sb ∧
    env.addVolume (volumeConfig cfg sb) (choosePool env sb) = .ok v ∧
    v.accessInfo.iscsiTargetSecret ≠ "" ∧ env.checkSecretExists (env.chapSecretName v) = .ok false

/-- The plan creates every object at most once. -/
theorem installPlan_created_nodup (csi native openShift createNamespace createPVC createPV
    createSecret : Bool) :
    ((installPlan csi native openShift createNamespace createPVC createPV createSecret).filterMap
      Step.created).Nodup := by
  -- each part of the plan creates a sublist of its own segment of one list of distinct objects
  have hsub : ((installPlan csi native openShift createNamespace createPVC createPV
      createSecret).filterMap Step.created).Sublist
      ([.namespace_] ++ [] ++ [.serviceAccount, .clusterRole, .clusterRoleBinding] ++ [.pvc] ++
        [.chapSecret, .pv] ++ [.deployment, .csiService, .csiStatefulSet, .csiDaemonSet]) := by
    simp only [installPlan, List.filterMap_append]
    refine .append (.append (.append (.append (.append ?_ ?_) ?_) ?_) ?_) ?_
    · cases createNamespace <;> decide
    · cases native <;> cases openShift <;> decide
    · cases native <;> cases openShift <;> decide
    · cases createPVC <;> decide
    · cases createPV <;> cases createSecret <;> decide
    · cases csi <;> decide
  exact List.Nodup.sublist hsub (by decide)

/-! ## Following a plan -/

section Follow

variable {α β : Type}

/-- A run stops at a failed create or allocation: that call is its last, and it
returns an error. -/
def HaltsOnFailedCreate (x : Run α) : Prop :=
  ∀ pre c e post, callsOf x.events = pre ++ (c, some e) :: post → c.allocates = true →
    post = [] ∧ ∃ msg, x.result = .error msg

/-- The calls of `x` are a prefix of `plan`, all of it when `x` succeeds, and `x` stops
at a failed create. -/
structure Follows (x : Run α) (plan : List Step) : Prop where
  withinPlan : steps x.events <+: plan
  wholePlan : ∀ a, x.result = .ok a → steps x.events = plan
  halts : HaltsOnFailedCreate x

@[simp] theorem steps_append (l₁ l₂ : List Event) : steps (l₁ ++ l₂) = steps l₁ ++ steps l₂ := by
  simp [steps]

theorem HaltsOnFailedCreate.bind {x : Run α} {f : α → Run β} (hx : HaltsOnFailedCreate x)
    (hf : ∀ a, x.result = .ok a → HaltsOnFailedCreate (f a)) : HaltsOnFailedCreate (x >>= f) := by
  intro pre c e post hcalls hc
  cases h : x.result with
  | error msg =>
      rw [events_bind_error f h] at hcalls
      exact ⟨(hx pre c e post hcalls hc).1, msg, result_bind_error f h⟩
  | ok a =>
      rw [events_bind_ok f h, callsOf_append] at hcalls
      rw [result_bind_ok f h]
      rcases List.append_eq_append_iff.mp hcalls with ⟨mid, -, hmid⟩ | ⟨mid, hxcalls, hrest⟩
      · exact hf a h mid c e post hmid hc
      · cases mid with
        | nil => exact hf a h [] c e post (by simpa using hrest.symm) hc
        | cons d mid =>
            obtain ⟨rfl, -⟩ := List.cons.inj (hrest.trans (List.cons_append ..))
            obtain ⟨-, msg, hmsg⟩ := hx pre c e mid hxcalls hc
            simp [h] at hmsg

theorem Follows.bind {x : Run α} {f : α → Run β} {p q : List Step} (hx : Follows x p)
    (hf : ∀ a, x.result = .ok a → Follows (f a) q) : Follows (x >>= f) (p ++ q) := by
  refine ⟨?_, ?_, hx.halts.bind fun a h => (hf a h).halts⟩ <;> cases h : x.result with
  | error e =>
      simp only [events_bind_error f h, result_bind_error f h]
      first
        | exact hx.withinPlan.trans (List.prefix_append p q)
        | intro b hb; cases hb
  | ok a =>
      simp only [events_bind_ok f h, result_bind_ok f h, steps_append, hx.wholePlan a h]
      first
        | exact (List.prefix_append_right_inj p).mpr (hf a h).withinPlan
        | intro b hb; rw [(hf a h).wholePlan b hb]

theorem Follows.of_eq {x : Run α} {p q : List Step} (h : Follows x p) (hpq : p = q) :
    Follows x q :=
  hpq ▸ h

/-- A run without calls follows the empty plan. -/
theorem NoCalls.follows {x : Run α} (h : NoCalls x) : Follows x [] := by
  have hcalls : callsOf x.events = [] := h
  have hsteps : steps x.events = [] := by simp [steps, hcalls]
  refine ⟨by rw [hsteps], fun _ _ => hsteps, fun pre c e post h' _ => ?_⟩
  rw [hcalls] at h'
  simp at h'

/-- A run that returns an error without a call follows every plan. -/
theorem follows_fail (msg : String) (p : List Step) : Follows (fail msg : Run α) p :=
  ⟨by simp [steps], (fun _ h => by cases h), fun pre c e post h _ => by simp at h⟩

/-- One call, then no more: the call's step, provided a failed allocation ends the run. -/
theorem follows_invoke_bind (c : Call) (err : Option String) {k : Option String → Run β}
    (hk : NoCalls (k err)) (hhalt : ∀ e, err = some e → c.allocates = true → ∃ msg, (k err).result = .error msg) :
    Follows (invoke c err >>= k) [c.step] := by
  rw [invoke_bind]
  have hcalls : callsOf (.call c err :: (k err).events) = [(c, err)] := by
    simp [show callsOf (k err).events = [] from hk]
  refine ⟨by simp [steps, hcalls], fun _ _ => by simp [steps, hcalls], ?_⟩
  intro pre c' e post h hc
  rw [hcalls] at h
  rcases pre with _ | ⟨_, pre⟩
  · obtain ⟨h₁, rfl⟩ := List.cons.inj h
    obtain ⟨rfl, rfl⟩ := Prod.mk.inj h₁
    exact ⟨rfl, hhalt e rfl hc⟩
  · simp at h

theorem Follows.ite {c : Prop} [Decidable c] {x y : Run α} {p q : List Step} (hx : Follows x p)
    (hy : Follows y q) : Follows (if c then x else y) (if c then p else q) := by
  split <;> assumption

/-- A branch follows a plan of a chosen shape when each arm does, under its condition. -/
theorem exists_follows_ite {c : Prop} [Decidable c] {x y : Run α} {P : Bool → Prop}
    {plan : Bool → List Step} (hx : c → ∃ s, P s ∧ Follows x (plan s))
    (hy : ¬c → ∃ s, P s ∧ Follows y (plan s)) : ∃ s, P s ∧ Follows (if c then x else y) (plan s) := by
  split
  · exact hx ‹_›
  · exact hy ‹_›

theorem follows_onlyIf (c : Bool) {step : Run Unit} {p : List Step} (h : Follows step p) :
    Follows (onlyIf c step) (if c then p else []) := by
  cases c
  · exact NoCalls.follows (noCalls_pure ())
  · exact h

end Follow

/-! ## The installer's steps -/

section Steps

variable (cfg : Config) (env : Env)

theorem follows_invoke_check (c : Call) (err : Option String) (wrap : String → String)
    {k : Unit → Run Unit} (hk : ∀ u, NoCalls (k u)) :
    Follows (invoke c err >>= fun err => check err wrap >>= k) [c.step] :=
  follows_invoke_bind c err (.bind (noCalls_check ..) hk) fun e he _ => by
    subst he
    exact ⟨wrap e, by simp⟩

theorem follows_createObjectFromFileOrYAML (o : Obj) (path : String)
    (validation : Option (String × Except String Unit)) (m : Manifest)
    (renderedFields : List (String × Value)) (failure created : String) :
    Follows (createObjectFromFileOrYAML cfg env o path validation m renderedFields failure created)
      [.create o] := by
  exact Follows.bind (noCalls_validateOverride _ _).follows fun _ _ =>
    follows_invoke_check _ _ _ fun _ => noCalls_log ..

theorem follows_bestEffort (c : Call) (err : Option String) (failed done : String) (level : Level)
    (hc : c.allocates = false) : Follows (bestEffort c err failed done level) [c.step] :=
  follows_invoke_bind c err (by cases err <;> rfl) fun _ _ h => by simp [hc] at h

theorem follows_ucpBestEffort (c : Call) (answer : Except String Bool) (failed done field : String)
    (hc : c.allocates = false) : Follows (ucpBestEffort c answer failed done field) [c.step] := by
  unfold ucpBestEffort
  split
  · exact follows_invoke_bind _ _ (noCalls_log ..) fun _ _ h => by simp [hc] at h
  · exact follows_invoke_bind _ _ (noCalls_log ..) fun _ h => by cases h

theorem follows_ucpCreateStep (c : Call) (answer : Except String Bool) (failure done field : String) :
    Follows (ucpCreateStep c answer failure done field) [c.step] := by
  unfold ucpCreateStep
  split
  · exact follows_invoke_bind _ _ (noCalls_fail _) fun _ _ _ => ⟨_, rfl⟩
  · exact follows_invoke_bind _ _ (noCalls_log ..) fun _ h => by cases h

theorem follows_removeRBACObjects (logLevel : Level) :
    Follows (removeRBACObjects cfg env logLevel)
      (teardownPlan cfg.useKubernetesRBAC (env.flavor == .openShift)) := by
  unfold removeRBACObjects teardownPlan
  cases cfg.useKubernetesRBAC
  · exact Follows.bind (Follows.bind (follows_ucpBestEffort _ _ _ _ _ (by rfl)) fun _ _ =>
      Follows.bind (follows_ucpBestEffort _ _ _ _ _ (by rfl)) fun _ _ => NoCalls.follows (noCalls_pure _))
      fun _ _ => Follows.bind (follows_bestEffort _ _ _ _ _ (by rfl)) fun _ _ =>
      Follows.bind (NoCalls.follows (noCalls_pure _)) fun _ _ => NoCalls.follows (noCalls_pure _)
  · simp only [Bool.true_and]
    refine (Follows.bind (Follows.bind (follows_bestEffort _ _ _ _ _ (by rfl)) fun _ _ =>
      Follows.bind (follows_bestEffort _ _ _ _ _ (by rfl)) fun _ _ => NoCalls.follows (noCalls_pure _))
      fun _ _ => Follows.bind (follows_bestEffort _ _ _ _ _ (by rfl)) fun _ _ =>
      Follows.bind (.ite (follows_bestEffort _ _ _ _ _ (by rfl)) (NoCalls.follows (noCalls_pure _)))
        fun _ _ => NoCalls.follows (noCalls_pure _)).of_eq ?_
    simp [Call.step]

/-- What the teardown reports: whether a native deletion, the service account deletion or
the OpenShift SCC removal failed.  The UCP steps' failures are only logged. -/
theorem result_removeRBACObjects (logLevel : Level) :
    (removeRBACObjects cfg env logLevel).result = .ok
      ((cfg.useKubernetesRBAC && ((env.delete .clusterRoleBinding).isSome ||
          (env.delete .clusterRole).isSome)) || (env.delete .serviceAccount).isSome ||
        (cfg.useKubernetesRBAC && env.flavor == .openShift &&
          env.removeTridentUserFromOpenShiftSCC.isSome)) := by
  unfold removeRBACObjects
  cases cfg.useKubernetesRBAC <;> cases env.flavor == .openShift <;>
    simp only [bind_assoc, result_bind_ok _ (result_bestEffort ..),
      result_bind_ok _ (result_ucpBestEffort ..), pure_bind, result_pure, Bool.false_and,
      Bool.true_and, Bool.false_or, Bool.and_false, Bool.false_eq_true, ↓reduceIte]

theorem follows_createRBACObjects :
    Follows (createRBACObjects cfg env) (rbacPlan cfg.useKubernetesRBAC (env.flavor == .openShift)) := by
  unfold createRBACObjects rbacPlan
  refine Follows.bind (p := [.create .serviceAccount]) (follows_createObjectFromFileOrYAML ..)
    fun _ _ => ?_
  cases cfg.useKubernetesRBAC
  · exact Follows.bind (follows_ucpCreateStep ..) fun _ _ => follows_ucpCreateStep ..
  · refine (Follows.bind (follows_createObjectFromFileOrYAML ..) fun _ _ =>
      Follows.bind (follows_createObjectFromFileOrYAML ..) fun _ _ => ?_).of_eq
      (List.append_assoc _ _ _).symm
    cases env.flavor == .openShift
    · exact NoCalls.follows (noCalls_pure _)
    · exact follows_invoke_check _ _ _ fun _ => noCalls_log ..

theorem follows_addVolume (config : VolumeConfig) (pool : String) :
    Follows (addVolume env config pool) [.addVolume] := by
  unfold addVolume
  split
  · exact follows_invoke_bind _ _ (noCalls_pure _) fun _ h => by cases h
  · exact follows_invoke_bind _ _ (noCalls_fail _) fun _ _ _ => ⟨_, rfl⟩

theorem follows_createSecretUnlessExists (volume : Volume) (secretName : String)
    (secretExists : Bool) :
    Follows (createSecretUnlessExists env volume secretName secretExists)
      (if secretExists then [] else [.create .chapSecret]) := by
  unfold createSecretUnlessExists
  cases secretExists
  · exact Follows.bind (noCalls_log ..).follows fun _ _ =>
      follows_invoke_check _ _ _ fun _ => noCalls_log ..
  · exact (noCalls_log ..).follows

/-- `createCHAPSecret` creates the secret only after `CheckSecretExists` reported it
absent. -/
theorem follows_createCHAPSecret (volume : Volume) :
    ∃ secret : Bool, (secret = true → env.checkSecretExists (env.chapSecretName volume) = .ok false) ∧
      Follows (createCHAPSecret env volume) (if secret then [.create .chapSecret] else []) := by
  unfold createCHAPSecret
  dsimp only
  cases hans : env.checkSecretExists (env.chapSecretName volume) with
  | error e =>
      refine ⟨false, by simp, ?_⟩
      simp only [expect_error, fail_bind]
      exact (Follows.bind (noCalls_log ..).follows fun _ _ => follows_fail _ []).of_eq rfl
  | ok secretExists =>
      refine ⟨!secretExists, fun h => by simpa using h, ?_⟩
      refine (Follows.bind (noCalls_log ..).follows fun _ _ =>
        Follows.bind (noCalls_pure _).follows fun _ _ => Follows.bind (noCalls_probe ..).follows fun _ _ =>
        Follows.bind (follows_createSecretUnlessExists env volume _ secretExists) fun _ _ =>
        (noCalls_pure _).follows).of_eq ?_
      cases secretExists <;> rfl

/-- The PV manifest needs the CHAP secret only for an iSCSI volume with a target
secret. -/
theorem follows_pvManifest (volume : Volume) :
    ∃ secret : Bool, (secret = true → volume.accessInfo.iscsiTargetSecret ≠ "" ∧
        env.checkSecretExists (env.chapSecretName volume) = .ok false) ∧
      Follows (pvManifest cfg env volume) (if secret then [.create .chapSecret] else []) :=
  -- NFS, then iSCSI (CHAP needs a recent enough cluster), else an unrecognised volume
  exists_follows_ite (fun _ => ⟨false, nofun, (noCalls_pure _).follows⟩) fun _ =>
    exists_follows_ite (fun _ => exists_follows_ite (fun htarget =>
        exists_follows_ite (fun _ => ⟨false, nofun, follows_fail _ _⟩) fun _ =>
          let ⟨secret, hsecret, hfollows⟩ := follows_createCHAPSecret env volume
          ⟨secret, fun h => ⟨htarget, hsecret h⟩,
            (hfollows.bind fun _ _ => (noCalls_pure _).follows).of_eq (List.append_nil _)⟩)
      fun _ => ⟨false, nofun, (noCalls_pure _).follows⟩)
    fun _ => ⟨false, nofun, follows_fail _ _⟩

/-- The volume is allocated first, then its CHAP secret and the PV. -/
theorem follows_createPV (sb : Backend) :
    ∃ secret : Bool, (secret = true → ∃ v, env.addVolume (volumeConfig cfg sb) (choosePool env sb) = .ok v ∧
        v.accessInfo.iscsiTargetSecret ≠ "" ∧ env.checkSecretExists (env.chapSecretName v) = .ok false) ∧
      Follows (createPV cfg env sb) (pvPlan secret) := by
  unfold createPV
  split
  · exact ⟨false, by simp, follows_fail _ _⟩
  · cases hv : env.addVolume (volumeConfig cfg sb) (choosePool env sb) with
    | error e =>
        refine ⟨false, by simp, Follows.bind (p := [.addVolume]) (q := [] ++ [.create .pv])
          (follows_addVolume env _ _) fun _ h => ?_⟩
        simp [addVolume, hv] at h
    | ok v =>
        obtain ⟨secret, hsecret, hfollows⟩ := follows_pvManifest cfg env v
        refine ⟨secret, fun h => ⟨v, rfl, hsecret h⟩, Follows.bind (p := [.addVolume])
          (follows_addVolume env _ _) fun a ha => ?_⟩
        obtain rfl : v = a := by simpa [addVolume, hv] using ha
        exact Follows.bind hfollows fun _ _ => follows_invoke_bind _ _ (noCalls_check ..)
          fun e he _ => ⟨_, by rw [he]; rfl⟩

theorem Follows.wrap {α : Type} {x : Run α} {p : List Step} (f : String → String) (h : Follows x p) :
    Follows (Run.wrap f x) p := by
  refine ⟨h.withinPlan, fun a ha => h.wholePlan a ?_, fun pre c e post hcalls hc => ?_⟩
  · unfold Run.wrap at ha
    split at ha <;> simp_all
  · obtain ⟨hpost, msg, hmsg⟩ := h.halts pre c e post hcalls hc
    exact ⟨hpost, f msg, result_wrap_error f hmsg⟩

theorem follows_createPVIfNeeded (backend : Option Backend) :
    ∃ secret : Bool, (secret = true → ∃ sb v, backend = some sb ∧
        env.addVolume (volumeConfig cfg sb) (choosePool env sb) = .ok v ∧
        v.accessInfo.iscsiTargetSecret ≠ "" ∧ env.checkSecretExists (env.chapSecretName v) = .ok false) ∧
      Follows (createPVIfNeeded cfg env backend) (if backend.isSome then pvPlan secret else []) := by
  cases backend with
  | none => exact ⟨false, by simp, (noCalls_pure _).follows⟩
  | some sb =>
      obtain ⟨secret, hsecret, hfollows⟩ := follows_createPV cfg env sb
      refine ⟨secret, fun h => ?_, (Follows.bind (hfollows.wrap _) fun _ _ =>
        (noCalls_log ..).follows).of_eq (List.append_nil _)⟩
      obtain ⟨v, hv⟩ := hsecret h
      exact ⟨sb, v, rfl, hv⟩

theorem follows_createWorkloads : Follows (createWorkloads cfg env) (workloadPlan cfg.csi) := by
  unfold createWorkloads workloadPlan
  cases cfg.csi
  · exact follows_createObjectFromFileOrYAML ..
  · exact Follows.bind (follows_createObjectFromFileOrYAML ..) fun _ _ =>
      Follows.bind (follows_createObjectFromFileOrYAML ..) fun _ _ =>
      follows_createObjectFromFileOrYAML ..

/-- The mutation phase follows the plan, with the answers the pre-check phase saw. -/
theorem follows_install (p : Probed) :
    ∃ secret : Bool, (secret = true → ∃ sb v, p.storageBackend = some sb ∧
        env.addVolume (volumeConfig cfg sb) (choosePool env sb) = .ok v ∧
        v.accessInfo.iscsiTargetSecret ≠ "" ∧ env.checkSecretExists (env.chapSecretName v) = .ok false) ∧
      Follows (install cfg env p) (installPlan cfg.csi cfg.useKubernetesRBAC (env.flavor == .openShift)
        (!p.namespaceExists) (!p.pvcExists) p.storageBackend.isSome secret) := by
  obtain ⟨secret, hsecret, hpv⟩ := follows_createPVIfNeeded cfg env p.storageBackend
  refine ⟨secret, hsecret, ?_⟩
  unfold install
  refine (Follows.bind (noCalls_log ..).follows fun _ _ =>
    Follows.bind (follows_onlyIf _ (follows_createObjectFromFileOrYAML ..)) fun _ _ =>
    Follows.bind (follows_removeRBACObjects cfg env .debug) fun _ _ =>
    Follows.bind (noCalls_stopIf ..).follows fun _ _ =>
    Follows.bind (follows_createRBACObjects cfg env) fun _ _ =>
    Follows.bind (follows_onlyIf _ (follows_createObjectFromFileOrYAML ..)) fun _ _ =>
    Follows.bind hpv fun _ _ =>
    Follows.bind (noCalls_waitForPVCBound cfg env).follows fun _ _ =>
    Follows.bind (follows_createWorkloads cfg env) fun _ _ =>
    Follows.bind (noCalls_waitForTridentPod cfg env).follows fun pod _ =>
    Follows.bind ((noCalls_waitForRESTInterface cfg env pod.name).follows.wrap _) fun _ _ =>
    (noCalls_log ..).follows).of_eq ?_
  simp [installPlan]

end Steps

/-- `installTrident` follows the plan; each optional step is in it only on the answer
that calls for it, and after a dry run nothing is. -/
theorem follows_installTrident (cfg : Config) (env : Env) :
    ∃ createNamespace createPVC createPV createSecret : Bool,
      (createNamespace = true → env.checkNamespaceExists cfg.namespace_ = .ok false) ∧
      (createPVC = true → env.checkPVCExists cfg.pvcName = .ok false) ∧
      (createPV = true → env.checkPVExists cfg.pvName = .ok false) ∧
      (createSecret = true → NeedsCHAPSecret cfg env) ∧
      Follows (installTrident cfg env) (if cfg.dryRun then [] else
        installPlan cfg.csi cfg.useKubernetesRBAC (env.flavor == .openShift) createNamespace createPVC
          createPV createSecret) := by
  unfold installTrident
  cases hpre : (preChecks cfg env).result with
  | error e =>
      exact ⟨false, false, false, false, by simp, by simp, by simp, by simp,
        Follows.bind (noCalls_preChecks cfg env).follows fun _ h => by simp [hpre] at h⟩
  | ok p =>
      obtain ⟨hns, hpvc, hpv, hload⟩ := preChecks_answers cfg env hpre
      obtain ⟨secret, hsecret, hinstall⟩ := follows_install cfg env p
      refine ⟨!p.namespaceExists, !p.pvcExists, p.storageBackend.isSome, secret, ?_, ?_, ?_, ?_,
        Follows.bind (noCalls_preChecks cfg env).follows fun a ha => ?_⟩
      · simp [hns]
      · simp [hpvc]
      · intro h
        rw [hpv]
        cases hb : p.storageBackend
        · simp [hb] at h
        · rfl
      · intro h
        obtain ⟨sb, v, hsb, hv⟩ := hsecret h
        exact ⟨sb, v, hload sb hsb, hv⟩
      · obtain rfl : p = a := Except.ok.inj (hpre.symm.trans ha)
        exact Follows.ite (noCalls_log ..).follows hinstall

end TridentInstaller
