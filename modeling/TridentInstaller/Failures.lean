import TridentInstaller.CustomFiles
import TridentInstaller.Command
set_option autoImplicit false

/-!
# What a failed run reports

A failed mutating call outside the teardown ends the run, which fails with that step's
text and the collaborator's error (`ReportsFailures`).  A failed delete or SCC removal of
the teardown stops the run after the teardown; what the UCP role's steps answer changes
neither the calls nor the result.
-/

namespace TridentInstaller

open Run

/-! ## Reporting a failed call -/

/-- Every failed call of `x` whose step `text` gives a report text ends `x`, and `x`
fails with that text, `"; "`, and the collaborator's error. -/
def ReportsFailures {α : Type} (text : Step → Option String) (x : Run α) : Prop :=
  ∀ pre c e post t, callsOf x.events = pre ++ (c, some e) :: post → text c.step = some t →
    post = [] ∧ x.result = .error (t ++ "; " ++ e)

section Reports

variable {α β : Type} {text text' : Step → Option String}

theorem ReportsFailures.bind {x : Run α} {f : α → Run β} (hx : ReportsFailures text x)
    (hf : ∀ a, x.result = .ok a → ReportsFailures text (f a)) :
    ReportsFailures text (x >>= f) := by
  intro pre c e post t hcalls ht
  cases h : x.result with
  | error msg =>
      rw [events_bind_error f h] at hcalls
      obtain ⟨hpost, hmsg⟩ := hx pre c e post t hcalls ht
      cases h.symm.trans hmsg
      exact ⟨hpost, result_bind_error f h⟩
  | ok a =>
      rw [events_bind_ok f h, callsOf_append] at hcalls
      rw [result_bind_ok f h]
      rcases List.append_eq_append_iff.mp hcalls with ⟨mid, -, hmid⟩ | ⟨mid, hxcalls, hrest⟩
      · exact hf a h mid c e post t hmid ht
      · cases mid with
        | nil => exact hf a h [] c e post t (by simpa using hrest.symm) ht
        | cons d mid =>
            obtain ⟨rfl, -⟩ := List.cons.inj (hrest.trans (List.cons_append ..))
            cases h.symm.trans (hx pre c e mid t hxcalls ht).2

/-- A run whose calls all lack a report text reports nothing. -/
theorem AllCalls.reportsFailures {x : Run α} (h : AllCalls (fun c => text c.step = none) x) :
    ReportsFailures text x := fun pre c e _ _ hcalls ht =>
  nomatch (h (c, some e) (hcalls ▸ List.mem_append_right pre (List.mem_cons_self _ _))).symm.trans ht

theorem NoCalls.reportsFailures {x : Run α} (h : NoCalls x) : ReportsFailures text x :=
  h.allCalls.reportsFailures

theorem ReportsFailures.ite {c : Prop} [Decidable c] {x y : Run α} (hx : ReportsFailures text x)
    (hy : ReportsFailures text y) : ReportsFailures text (if c then x else y) := by
  split <;> assumption

theorem reportsFailures_onlyIf (c : Bool) {step : Run Unit} (h : ReportsFailures text step) :
    ReportsFailures text (onlyIf c step) :=
  ReportsFailures.ite h (noCalls_pure ()).reportsFailures

/-- Prefixing a run's error prefixes the texts it reports with. -/
theorem ReportsFailures.wrap (pfx : String) {x : Run α} (h : ReportsFailures text x) :
    ReportsFailures (fun s => (text s).map (pfx ++ ·)) (wrap (pfx ++ ·) x) := by
  intro pre c e post t hcalls ht
  obtain ⟨t', ht', rfl⟩ := Option.map_eq_some'.mp ht
  obtain ⟨hpost, hres⟩ := h pre c e post t' hcalls ht'
  refine ⟨hpost, ?_⟩
  rw [result_wrap_error _ hres]
  simp only [String.append_assoc]

/-- Two report tables that agree on every call a run makes report alike. -/
theorem ReportsFailures.congr {x : Run α} (h : ReportsFailures text x)
    (hcalls : AllCalls (fun c => text' c.step = text c.step) x) : ReportsFailures text' x :=
  fun pre c e post t hx ht =>
    h pre c e post t hx ((hcalls (c, some e) (hx ▸ List.mem_append_right pre
      (List.mem_cons_self _ _))).symm.trans ht)

/-- One call, then no more: a failure of the call is reported when the rest fails with
its report text. -/
theorem reportsFailures_invoke_bind (c : Call) (err : Option String) {k : Option String → Run β}
    (hk : NoCalls (k err))
    (hfail : ∀ t e, text c.step = some t → err = some e → (k err).result = .error (t ++ "; " ++ e)) :
    ReportsFailures text (invoke c err >>= k) := by
  rw [invoke_bind]
  intro pre c' e post t h ht
  have hcalls : callsOf (.call c err :: (k err).events) = [(c, err)] := by
    simp [show callsOf (k err).events = [] from hk]
  rw [hcalls] at h
  rcases pre with _ | ⟨_, pre⟩
  · obtain ⟨h₁, rfl⟩ := List.cons.inj h
    obtain ⟨rfl, rfl⟩ := Prod.mk.inj h₁
    exact ⟨rfl, hfail t e ht rfl⟩
  · simp at h

/-- A call checked with `msg`, then no more calls. -/
theorem reportsFailures_invoke_check (c : Call) (err : Option String) (msg : String → String)
    {k : Unit → Run β} (hk : ∀ u, NoCalls (k u))
    (hmsg : ∀ t e, text c.step = some t → msg e = t ++ "; " ++ e) :
    ReportsFailures text (invoke c err >>= fun err => check err msg >>= k) :=
  reportsFailures_invoke_bind c err ((noCalls_check ..).bind hk) fun t e ht he => by
    subst he
    simp [hmsg t e ht]

end Reports

/-! ## The report texts -/

/-- The prefix `installTrident` puts on an error of `createPV`. -/
def pvPrefix (cfg : Config) : String := "could not create PV " ++ cfg.pvName ++ "; "

/-- The text `installTrident` reports a failed call of each step with.  The teardown's
steps are best effort and have none. -/
def Step.failureText (cfg : Config) : Step → Option String
  | .create .namespace_ => some ("could not create namespace " ++ cfg.namespace_)
  | .create .serviceAccount => some "could not create service account"
  | .create .clusterRole => some "could not create cluster role"
  | .create .clusterRoleBinding => some "could not create cluster role binding"
  | .addSCCUser => some "could not modify security context constraint"
  | .createUCPRole => some "could not create Trident UCP role"
  | .addUCPRole => some "could not add Trident UCP role to service account"
  | .create .pvc => some ("could not create PVC " ++ cfg.pvcName)
  | .addVolume => some (pvPrefix cfg ++ "could not create a volume on the storage backend")
  | .create .chapSecret => some (pvPrefix cfg ++ "could not create CHAP secret")
  | .create .pv => some (pvPrefix cfg ++ ("could not create PV " ++ cfg.pvName))
  | .create .deployment => some "could not create Trident deployment"
  | .create .csiService => some "could not create Trident service"
  | .create .csiStatefulSet => some "could not create Trident statefulset"
  | .create .csiDaemonSet => some "could not create Trident daemonset"
  | _ => none

/-- The texts `createPV` reports its own failed calls with. -/
def Step.createPVText (cfg : Config) : Step → Option String
  | .addVolume => some "could not create a volume on the storage backend"
  | .create .chapSecret => some "could not create CHAP secret"
  | .create .pv => some ("could not create PV " ++ cfg.pvName)
  | _ => none

section Texts

variable (cfg : Config)

theorem failureText_of_mem_teardownPlan {native openShift : Bool} {s : Step}
    (hs : s ∈ teardownPlan native openShift) : s.failureText cfg = none := by
  cases native <;> cases openShift <;> simp [teardownPlan] at hs <;>
    rcases hs with rfl | rfl | rfl | rfl <;> rfl

/-- On the PV phase's steps, `installTrident` reports `createPV`'s texts behind its
prefix. -/
theorem failureText_of_mem_pvPlan {secret : Bool} {s : Step} (hs : s ∈ pvPlan secret) :
    s.failureText cfg = (s.createPVText cfg).map (pvPrefix cfg ++ ·) := by
  cases secret <;> simp [pvPlan] at hs <;> rcases hs with rfl | rfl | rfl <;> rfl

end Texts

/-! ## Every run -/

section Run

variable (cfg : Config) (env : Env)

theorem reportsFailures_createObjectFromFileOrYAML {text : Step → Option String} (o : Obj)
    (path : String) (validation : Option (String × Except String Unit)) (m : Manifest)
    (renderedFields : List (String × Value)) (failure created : String)
    (ht : text (.create o) = some failure) :
    ReportsFailures text
      (createObjectFromFileOrYAML cfg env o path validation m renderedFields failure created) :=
  (noCalls_validateOverride _ _).reportsFailures.bind fun _ _ =>
    reportsFailures_invoke_check _ _ _ (fun _ => noCalls_log ..) fun _ _ h => by
      cases h.symm.trans ht
      rfl

theorem reportsFailures_ucpCreateStep {text : Step → Option String} (c : Call)
    (answer : Except String Bool) (failure done field : String) (ht : text c.step = some failure) :
    ReportsFailures text (ucpCreateStep c answer failure done field) := by
  unfold ucpCreateStep
  split
  · exact reportsFailures_invoke_bind _ _ (noCalls_fail _) fun _ _ h he => by
      cases h.symm.trans ht
      cases he
      rfl
  · exact reportsFailures_invoke_bind _ _ (noCalls_log ..) fun _ _ _ he => by cases he

theorem reportsFailures_createRBACObjects :
    ReportsFailures (Step.failureText cfg) (createRBACObjects cfg env) := by
  unfold createRBACObjects
  exact (reportsFailures_createObjectFromFileOrYAML cfg env _ _ _ _ _ _ _ (by rfl)).bind fun _ _ =>
    .ite ((reportsFailures_createObjectFromFileOrYAML cfg env _ _ _ _ _ _ _ (by rfl)).bind fun _ _ =>
      (reportsFailures_createObjectFromFileOrYAML cfg env _ _ _ _ _ _ _ (by rfl)).bind fun _ _ =>
        .ite (reportsFailures_invoke_check _ _ _ (fun _ => noCalls_log ..) fun _ _ h => by
            cases h
            rfl)
          (noCalls_pure _).reportsFailures)
    ((reportsFailures_ucpCreateStep _ _ _ _ _ (by rfl)).bind fun _ _ =>
      reportsFailures_ucpCreateStep _ _ _ _ _ (by rfl))

theorem reportsFailures_createCHAPSecret (v : Volume) :
    ReportsFailures (Step.createPVText cfg) (createCHAPSecret env v) := by
  unfold createCHAPSecret createSecretUnlessExists
  exact (noCalls_log ..).reportsFailures.bind fun _ _ =>
    (noCalls_expect ..).reportsFailures.bind fun _ _ => (noCalls_probe ..).reportsFailures.bind fun _ _ =>
    (ReportsFailures.ite (noCalls_log ..).reportsFailures ((noCalls_log ..).reportsFailures.bind fun _ _ =>
      reportsFailures_invoke_check _ _ _ (fun _ => noCalls_log ..) fun _ _ h => by
        cases h
        rfl)).bind fun _ _ =>
    (noCalls_pure _).reportsFailures

theorem reportsFailures_pvManifest (v : Volume) :
    ReportsFailures (Step.createPVText cfg) (pvManifest cfg env v) := by
  unfold pvManifest
  exact .ite (noCalls_pure _).reportsFailures (.ite (.ite (.ite (noCalls_fail _).reportsFailures
    ((reportsFailures_createCHAPSecret cfg env v).bind fun _ _ => (noCalls_pure _).reportsFailures))
    (noCalls_pure _).reportsFailures) (noCalls_fail _).reportsFailures)

theorem reportsFailures_addVolume (config : VolumeConfig) (pool : String) :
    ReportsFailures (Step.createPVText cfg) (addVolume env config pool) := by
  unfold addVolume
  split
  · exact reportsFailures_invoke_bind _ _ (noCalls_pure _) fun _ _ _ he => by cases he
  · exact reportsFailures_invoke_bind _ _ (noCalls_fail _) fun _ _ h he => by
      cases h
      cases he
      rfl

theorem reportsFailures_createPV (sb : Backend) :
    ReportsFailures (Step.createPVText cfg) (createPV cfg env sb) := by
  unfold createPV
  exact .ite (noCalls_fail _).reportsFailures
    ((reportsFailures_addVolume cfg env _ _).bind fun v _ =>
      (reportsFailures_pvManifest cfg env v).bind fun _ _ =>
        reportsFailures_invoke_bind _ _ (noCalls_check ..) fun _ _ h he => by
          cases h
          rw [he]
          rfl)

theorem reportsFailures_createPVIfNeeded (backend : Option Backend) :
    ReportsFailures (Step.failureText cfg) (createPVIfNeeded cfg env backend) := by
  cases backend with
  | none => exact (noCalls_pure _).reportsFailures
  | some sb =>
      obtain ⟨secret, -, hf⟩ := follows_createPV cfg env sb
      exact (((reportsFailures_createPV cfg env sb).wrap (pvPrefix cfg)).congr
        ((hf.allCalls fun _ hc => failureText_of_mem_pvPlan cfg hc).wrap _)).bind fun _ _ =>
        (noCalls_log ..).reportsFailures

theorem reportsFailures_createWorkloads :
    ReportsFailures (Step.failureText cfg) (createWorkloads cfg env) := by
  unfold createWorkloads createCSIService createCSIStatefulSet createCSIDaemonSet createDeployment
  exact .ite ((reportsFailures_createObjectFromFileOrYAML cfg env _ _ _ _ _ _ _ (by rfl)).bind fun _ _ =>
      (reportsFailures_createObjectFromFileOrYAML cfg env _ _ _ _ _ _ _ (by rfl)).bind fun _ _ =>
        reportsFailures_createObjectFromFileOrYAML cfg env _ _ _ _ _ _ _ (by rfl))
    (reportsFailures_createObjectFromFileOrYAML cfg env _ _ _ _ _ _ _ (by rfl))

theorem reportsFailures_install (p : Probed) :
    ReportsFailures (Step.failureText cfg) (install cfg env p) := by
  unfold install createNamespace createPVC
  exact (noCalls_log ..).reportsFailures.bind fun _ _ =>
    (reportsFailures_onlyIf _ (reportsFailures_createObjectFromFileOrYAML cfg env _ _ _ _ _ _ _
      (by rfl))).bind fun _ _ =>
    ((follows_removeRBACObjects cfg env _).allCalls fun _ hc =>
      failureText_of_mem_teardownPlan cfg hc).reportsFailures.bind fun _ _ =>
    (noCalls_stopIf ..).reportsFailures.bind fun _ _ =>
    (reportsFailures_createRBACObjects cfg env).bind fun _ _ =>
    (reportsFailures_onlyIf _ (reportsFailures_createObjectFromFileOrYAML cfg env _ _ _ _ _ _ _
      (by rfl))).bind fun _ _ =>
    (reportsFailures_createPVIfNeeded cfg env _).bind fun _ _ =>
    (noCalls_waitForPVCBound cfg env).reportsFailures.bind fun _ _ =>
    (reportsFailures_createWorkloads cfg env).bind fun _ _ =>
    (noCalls_waitForTridentPod cfg env).reportsFailures.bind fun pod _ =>
    (noCalls_wrap _ (noCalls_waitForRESTInterface cfg env pod.name)).reportsFailures.bind fun _ _ =>
    (noCalls_log ..).reportsFailures

theorem reportsFailures_installTrident :
    ReportsFailures (Step.failureText cfg) (installTrident cfg env) :=
  (noCalls_preChecks cfg env).reportsFailures.bind fun p _ =>
    ReportsFailures.ite (noCalls_log ..).reportsFailures (reportsFailures_install cfg env p)

end Run

/-- A failed call is reported with its step's text.  In every run of `installTrident`,
whatever the collaborators answer, a failed call whose step has a report text (every
mutating call but the teardown's) is the run's last call, and the run fails with the
step's text, `"; "`, and the collaborator's error. -/
theorem installTrident_reports_failed_call (cfg : Config) (env : Env)
    {pre post : List (Call × Option String)} {c : Call} {e t : String}
    (hcalls : callsOf (installTrident cfg env).events = pre ++ (c, some e) :: post)
    (ht : c.step.failureText cfg = some t) :
    post = [] ∧ (installTrident cfg env).result = .error (t ++ "; " ++ e) :=
  reportsFailures_installTrident cfg env pre c e post t hcalls ht

/-- The default installation, on a cluster that refuses the PV create. -/
def pvRefusedEnv : Env :=
  { healthyEnv with create := fun o => if o = .pv then some "connection refused" else none }

/-- That installation stops at the PV create, and its error names the PV twice. -/
theorem pv_refused_reported :
    (installTrident sampleConfig pvRefusedEnv).result =
      .error "could not create PV trident; could not create PV trident; connection refused" :=
  have hlast : (callsOf (installTrident sampleConfig pvRefusedEnv).events).getLast? =
      some (.createObject .pv (.yaml (.nfsPVYAML "trident" "2Gi" "trident" "trident" "10.0.0.1"
        "/trident" "trident.netapp.io")), some "connection refused") := by
    decide
  have hcalls := (List.dropLast_append_getLast? _ hlast).symm
  (installTrident_reports_failed_call sampleConfig pvRefusedEnv hcalls rfl).2

/-! ## A failed teardown -/

/-- Whether a failed call of this step sets `removeRBACObjects`'s `anyErrors`: the deletes
and the removal from the SCC do; the UCP role's steps only log (their `anyErrors = true`
is commented out in the source). -/
def Step.countsAsCleanupError : Step → Bool
  | .delete _ | .removeSCCUser => true
  | _ => false

theorem callsOf_bestEffort (c : Call) (err : Option String) (failed done : String) (level : Level) :
    callsOf (bestEffort c err failed done level).events = [(c, err)] := by
  cases err <;> rfl

theorem callsOf_ucpBestEffort (c : Call) (answer : Except String Bool) (failed done field : String) :
    callsOf (ucpBestEffort c answer failed done field).events =
      [(c, match answer with | .ok _ => none | .error e => some e)] := by
  cases answer <;> rfl

/-- The teardown answers `true` exactly when one of its counted calls failed. -/
theorem result_removeRBACObjects_eq_any (cfg : Config) (env : Env) (logLevel : Level) :
    (removeRBACObjects cfg env logLevel).result =
      .ok ((callsOf (removeRBACObjects cfg env logLevel).events).any
        fun ce => ce.1.step.countsAsCleanupError && ce.2.isSome) := by
  rw [result_removeRBACObjects]
  unfold removeRBACObjects
  cases hr : cfg.useKubernetesRBAC <;> cases hf : env.flavor == .openShift <;>
    simp only [hr, hf, Run.bind_assoc, events_bind_ok _ (result_bestEffort ..),
      events_bind_ok _ (result_ucpBestEffort ..), result_bind_ok _ (result_bestEffort ..), Run.pure_bind,
      callsOf_append, callsOf_bestEffort, callsOf_ucpBestEffort, events_pure, callsOf_nil,
      Bool.false_and, Bool.true_and, Bool.false_eq_true, ↓reduceIte] <;>
    simp [Call.step, Step.countsAsCleanupError, Bool.or_assoc]

theorem countsAsCleanupError_onlyIfPlan (b : Bool) (o : Obj) :
    ∀ s ∈ (if b then [Step.create o] else []), s.countsAsCleanupError = false := by
  cases b <;> simp [Step.countsAsCleanupError]

theorem countsAsCleanupError_rbacPlan (native openShift : Bool) :
    ∀ s ∈ rbacPlan native openShift, s.countsAsCleanupError = false := by
  cases native <;> cases openShift <;> decide

theorem countsAsCleanupError_pvPlan (secret : Bool) :
    ∀ s ∈ pvPlan secret, s.countsAsCleanupError = false := by
  cases secret <;> decide

theorem countsAsCleanupError_workloadPlan (csi : Bool) :
    ∀ s ∈ workloadPlan csi, s.countsAsCleanupError = false := by
  cases csi <;> decide

theorem Follows.allCalls_not_counted {α : Type} {x : Run α} {p : List Step} (h : Follows x p)
    (hp : ∀ s ∈ p, s.countsAsCleanupError = false) :
    AllCalls (fun c => c.step.countsAsCleanupError = false) x :=
  h.allCalls fun _ hc => hp _ hc

section Teardown

variable (cfg : Config) (env : Env)

/-- The mutation phase after a counted teardown failure: the namespace create if it was
absent, the whole teardown, and the stop. -/
theorem install_stops_on_failed_teardown (p : Probed) {c : Call} {e : String}
    (hc : (c, some e) ∈ callsOf (install cfg env p).events)
    (hcounted : c.step.countsAsCleanupError = true) :
    steps (install cfg env p).events = (if p.namespaceExists then [] else [.create .namespace_]) ++
        teardownPlan cfg.useKubernetesRBAC (env.flavor == .openShift) ∧
      (install cfg env p).result = .error ("could not remove one or more previous Trident artifacts; " ++
        "please delete them manually and try again") := by
  have hns := follows_onlyIf (!p.namespaceExists) (follows_createObjectFromFileOrYAML cfg env .namespace_
    cfg.paths.namespacePath none (.namespaceYAML cfg.namespace_) [("namespace", .str cfg.namespace_)]
    ("could not create namespace " ++ cfg.namespace_) "Created namespace.")
  have htd := follows_removeRBACObjects cfg env .debug
  have htdr := result_removeRBACObjects_eq_any cfg env .debug
  have uncounted : ∀ {α : Type} {x : Run α}, AllCalls (fun c => c.step.countsAsCleanupError = false) x →
      (c, some e) ∈ callsOf x.events → False := fun h hx =>
    Bool.false_ne_true ((h _ hx).symm.trans hcounted)
  obtain ⟨secret, -, hpv⟩ := follows_createPVIfNeeded cfg env p.storageBackend
  unfold install createNamespace createPVC at hc ⊢
  rw [log_bind] at hc ⊢
  cases hn : (onlyIf (!p.namespaceExists) (createObjectFromFileOrYAML cfg env .namespace_
    cfg.paths.namespacePath none (.namespaceYAML cfg.namespace_) [("namespace", .str cfg.namespace_)]
    ("could not create namespace " ++ cfg.namespace_) "Created namespace.")).result with
  | error m =>
      rw [events_bind_error _ hn] at hc
      exact (uncounted (hns.allCalls_not_counted (countsAsCleanupError_onlyIfPlan _ _)) hc).elim
  | ok u =>
      rw [events_bind_ok _ hn, events_bind_ok _ htdr] at hc ⊢
      rw [result_bind_ok _ hn, result_bind_ok _ htdr]
      rw [callsOf_cons_log, callsOf_append, callsOf_append, List.mem_append, List.mem_append] at hc
      cases hb : (callsOf (removeRBACObjects cfg env .debug).events).any
          fun ce => ce.1.step.countsAsCleanupError && ce.2.isSome
      · rw [hb] at hc
        rcases hc with h | h | h
        · -- the namespace create is not counted
          exact (uncounted (hns.allCalls_not_counted (countsAsCleanupError_onlyIfPlan _ _)) h).elim
        · -- a failed counted call of the teardown makes it answer `true`
          exact (List.any_eq_false.mp hb _ h (by simp [hcounted])).elim
        · -- nothing after the teardown is counted
          refine (uncounted ?_ h).elim
          exact (noCalls_stopIf ..).allCalls.bind fun _ =>
            ((follows_createRBACObjects cfg env).allCalls_not_counted
              (countsAsCleanupError_rbacPlan _ _)).bind fun _ =>
            (allCalls_onlyIf _ ((follows_createObjectFromFileOrYAML ..).allCalls_not_counted
              (by decide))).bind fun _ =>
            (hpv.allCalls_not_counted fun s hs => by
              split at hs
              exacts [countsAsCleanupError_pvPlan _ s hs, nomatch hs]).bind fun _ =>
            (noCalls_waitForPVCBound cfg env).allCalls.bind fun _ =>
            ((follows_createWorkloads cfg env).allCalls_not_counted
              (countsAsCleanupError_workloadPlan _)).bind fun _ =>
            (noCalls_waitForTridentPod cfg env).allCalls.bind fun pod =>
            (noCalls_wrap _ (noCalls_waitForRESTInterface cfg env pod.name)).allCalls.bind fun _ =>
            (noCalls_log ..).allCalls
      · refine ⟨?_, rfl⟩
        rw [stopIf_true, fail_bind, events_fail, List.append_nil,
          show ∀ r evs, steps (Event.log r :: evs) = steps evs from fun _ _ => rfl, steps_append,
          hns.wholePlan u hn, htd.wholePlan _ htdr]
        cases p.namespaceExists <;> rfl

end Teardown

/-- A failed teardown stops the installation.  In every run of `installTrident`, whatever
the collaborators answer, when a delete of an old RBAC object or the removal of the
Trident user from the OpenShift SCC fails, the run creates nothing but the namespace: its
calls are the namespace create, when the namespace check found none, and the whole
teardown, whose later calls are still made; and the run fails asking for the old
artifacts to be deleted by hand. -/
theorem installTrident_stops_on_failed_teardown (cfg : Config) (env : Env) {c : Call} {e : String}
    (hc : (c, some e) ∈ callsOf (installTrident cfg env).events)
    (hcounted : c.step.countsAsCleanupError = true) :
    (∃ namespaceExists, env.checkNamespaceExists cfg.namespace_ = .ok namespaceExists ∧
        steps (installTrident cfg env).events = (if namespaceExists then [] else [.create .namespace_]) ++
          teardownPlan cfg.useKubernetesRBAC (env.flavor == .openShift)) ∧
      (installTrident cfg env).result = .error ("could not remove one or more previous Trident artifacts; " ++
        "please delete them manually and try again") := by
  have hpc : callsOf (preChecks cfg env).events = [] := noCalls_preChecks cfg env
  unfold installTrident at hc ⊢
  cases hpre : (preChecks cfg env).result with
  | error m =>
      rw [events_bind_error _ hpre, hpc] at hc
      nomatch hc
  | ok p =>
      rw [events_bind_ok _ hpre, callsOf_append, hpc, List.nil_append] at hc
      rw [events_bind_ok _ hpre, result_bind_ok _ hpre, steps_append,
        show steps (preChecks cfg env).events = [] by simp [steps, hpc], List.nil_append]
      cases hdry : cfg.dryRun
      · simp only [hdry, Bool.false_eq_true, ↓reduceIte] at hc ⊢
        obtain ⟨hsteps, hres⟩ := install_stops_on_failed_teardown cfg env p hc hcounted
        exact ⟨⟨p.namespaceExists, (preChecks_answers cfg env hpre).1, hsteps⟩, hres⟩
      · simp only [hdry, ↓reduceIte] at hc
        nomatch hc

/-- The default installation, on a cluster that refuses to delete the old service
account. -/
def staleAccountEnv : Env :=
  { healthyEnv with delete := fun o => if o = .serviceAccount then some "forbidden" else none }

/-- That installation stops after the teardown. -/
theorem stale_account_stops_install :
    (installTrident sampleConfig staleAccountEnv).result =
      .error ("could not remove one or more previous Trident artifacts; " ++
        "please delete them manually and try again") :=
  have hc : (Call.deleteObjectByYAML .serviceAccount (.serviceAccountYAML false), some "forbidden") ∈
      callsOf (installTrident sampleConfig staleAccountEnv).events := by
    decide
  (installTrident_stops_on_failed_teardown sampleConfig staleAccountEnv hc rfl).2

/-! ## The UCP role's teardown -/

/-- Two runs that make the same calls, whatever those calls answered, and end alike. -/
def CallsAgree {α : Type} (x y : Run α) : Prop :=
  (callsOf x.events).map Prod.fst = (callsOf y.events).map Prod.fst ∧ x.result = y.result

theorem CallsAgree.refl {α : Type} (x : Run α) : CallsAgree x x := ⟨rfl, rfl⟩

theorem CallsAgree.bind {α β : Type} {x y : Run α} {f g : α → Run β} (hxy : CallsAgree x y)
    (hfg : ∀ a, CallsAgree (f a) (g a)) : CallsAgree (x >>= f) (y >>= g) := by
  obtain ⟨hcalls, hres⟩ := hxy
  cases h : y.result with
  | error e =>
      rw [CallsAgree, events_bind_error _ (hres.trans h), events_bind_error _ h,
        result_bind_error _ (hres.trans h), result_bind_error _ h]
      exact ⟨hcalls, rfl⟩
  | ok a =>
      rw [CallsAgree, events_bind_ok _ (hres.trans h), events_bind_ok _ h, result_bind_ok _ (hres.trans h),
        result_bind_ok _ h, callsOf_append, callsOf_append, List.map_append, List.map_append, hcalls]
      exact ⟨congrArg _ (hfg a).1, (hfg a).2⟩

/-- The cluster whose UCP client answers `removed` when asked to remove the Trident role
from the service account, and `deleted` when asked to delete the role. -/
def Env.withUCPTeardown (env : Env) (removed deleted : Except String Bool) : Env :=
  { env with removeTridentRoleFromServiceAccount := removed, deleteTridentRole := deleted }

section UCPTeardown

variable (cfg : Config) (env : Env) (removed deleted : Except String Bool)

/-- The teardown makes its UCP calls whatever they answer, and leaves their answers out of
its own. -/
theorem callsAgree_removeRBACObjects (logLevel : Level) :
    CallsAgree (removeRBACObjects cfg (env.withUCPTeardown removed deleted) logLevel)
      (removeRBACObjects cfg env logLevel) := by
  refine ⟨?_, by rw [result_removeRBACObjects, result_removeRBACObjects]; rfl⟩
  unfold removeRBACObjects
  simp only [Env.withUCPTeardown]
  cases cfg.useKubernetesRBAC <;> cases env.flavor == .openShift <;>
    simp only [Run.bind_assoc, events_bind_ok _ (result_bestEffort ..),
      events_bind_ok _ (result_ucpBestEffort ..), result_bind_ok _ (result_bestEffort ..),
      Run.pure_bind, callsOf_append, callsOf_bestEffort, callsOf_ucpBestEffort, events_pure,
      callsOf_nil, List.map_append, List.map_cons, List.map_nil, Bool.true_and,
      Bool.false_eq_true, ↓reduceIte]

/-- Only the teardown reads the UCP role's answers. -/
theorem callsAgree_install (p : Probed) :
    CallsAgree (install cfg (env.withUCPTeardown removed deleted) p) (install cfg env p) := by
  unfold install
  exact .bind (.refl _) fun _ => .bind (.refl _) fun _ =>
    .bind (callsAgree_removeRBACObjects cfg env removed deleted .debug) fun _ => .refl _

end UCPTeardown

/-- The UCP role's teardown steps are best effort and never stop the installation.  For
every configuration and environment, whatever the UCP client answers when asked to remove
the Trident role from the service account and to delete the role, a success or an error,
`installTrident` makes the same calls in the same order and ends the same way. -/
theorem installTrident_ignores_ucp_teardown_answers (cfg : Config) (env : Env)
    (removed deleted : Except String Bool) :
    (callsOf (installTrident cfg (env.withUCPTeardown removed deleted)).events).map Prod.fst =
        (callsOf (installTrident cfg env).events).map Prod.fst ∧
      (installTrident cfg (env.withUCPTeardown removed deleted)).result =
        (installTrident cfg env).result := by
  unfold installTrident
  refine CallsAgree.bind (.refl _) fun p => ?_
  cases cfg.dryRun
  · exact callsAgree_install cfg env removed deleted p
  · exact .refl _

/-! ## What the command prints -/

/-- `log.Fatalf` on an error: the run's events, then the fatal record. -/
theorem fatalOnError_of_error {α : Type} (msg : String → String) {x : Run α} {m : String}
    (h : x.result = .error m) :
    fatalOnError msg x = ⟨x.events ++ [.log ⟨.fatal, msg m, []⟩], .error (msg m)⟩ := by
  unfold fatalOnError
  rw [h]

/-- The command's last word on a failed call.  When a call of `tridentctl install` fails
whose step has a report text, the command's last event is a fatal record of the
installer's report inside the command's advice to clean up, and the command fails with
the same text. -/
theorem installCommand_fatal_on_failed_call (b : Build) (flags : Flags) (env : Env)
    {discovered : Config} {pre post : List (Call × Option String)} {c : Call} {e t : String}
    (hd : (discoverInstallationEnvironment b flags env).result = .ok discovered)
    (hcalls : callsOf (installCommand b flags env).events = pre ++ (c, some e) :: post)
    (ht : c.step.failureText (processInstallationArguments discovered) = some t) :
    let msg := "Install failed; " ++ (t ++ "; " ++ e) ++
      ".  Resolve the issue; use 'tridentctl uninstall' to clean up; and try again."
    post = [] ∧ (installCommand b flags env).events.getLast? = some (.log ⟨.fatal, msg, []⟩) ∧
      (installCommand b flags env).result = .error msg := by
  have hmakes : MakesCall (installCommand b flags env).events := fun hnil => by
    simp [hnil] at hcalls
  obtain ⟨d, hd', hv, hgen⟩ := exists_install_of_makesCall hmakes
  obtain rfl : d = discovered := Except.ok.inj (hd'.symm.trans hd)
  obtain ⟨hevents, hresult⟩ := installCommand_of_install hd hv hgen
  rw [hevents, callsOf_append, noCalls_discoverInstallationEnvironment b flags env,
    callsOf_fatalOnError, List.nil_append] at hcalls
  obtain ⟨hpost, hres⟩ := reportsFailures_installTrident _ env pre c e post t hcalls ht
  rw [fatalOnError_of_error _ hres] at hevents hresult
  exact ⟨hpost, by simp [hevents], hresult⟩

/-- The default command, on a cluster that refuses the PV create, ends with the PV named
twice inside its advice to clean up. -/
theorem pv_refused_command_fatal :
    (installCommand sampleBuild sampleFlags pvRefusedEnv).result =
      .error ("Install failed; could not create PV trident; could not create PV trident; " ++
        "connection refused.  Resolve the issue; use 'tridentctl uninstall' to clean up; " ++
        "and try again.") :=
  have hlast : (callsOf (installTrident sampleConfig pvRefusedEnv).events).getLast? =
      some (.createObject .pv (.yaml (.nfsPVYAML "trident" "2Gi" "trident" "trident" "10.0.0.1"
        "/trident" "trident.netapp.io")), some "connection refused") := by
    decide
  have hcalls : callsOf (installCommand sampleBuild sampleFlags pvRefusedEnv).events =
      (callsOf (installTrident sampleConfig pvRefusedEnv).events).dropLast ++
        [(.createObject .pv (.yaml (.nfsPVYAML "trident" "2Gi" "trident" "trident" "10.0.0.1"
          "/trident" "trident.netapp.io")), some "connection refused")] := by
    rw [(@installCommand_of_install sampleBuild sampleFlags pvRefusedEnv _ rfl
        validateInstallationArguments_trident rfl).1, callsOf_append,
      noCalls_discoverInstallationEnvironment, callsOf_fatalOnError, List.nil_append]
    exact (List.dropLast_append_getLast? _ hlast).symm
  (installCommand_fatal_on_failed_call sampleBuild sampleFlags pvRefusedEnv rfl hcalls rfl).2.2

end TridentInstaller
