import TridentInstaller.Idempotence
set_option autoImplicit false

/-!
# What an install run does to the cluster

Every run changes only the objects of its installation, the CHAP secret and the backend
volume, and removes only the RBAC objects its mode tears down.  Nothing it created is
rolled back, and a successful run leaves its whole installation present.  All of it is
read off the plan of `Plan.lean`.
-/

namespace TridentInstaller

open Run

/-! ## Traces and the store -/

/-- A trace splits where its steps split. -/
theorem steps_eq_append {evs : List Event} {p q : List Step} (h : steps evs = p ++ q) :
    ∃ e₁ e₂, evs = e₁ ++ e₂ ∧ steps e₁ = p ∧ steps e₂ = q := by
  obtain ⟨c₁, c₂, hcalls, rfl, rfl⟩ := List.map_eq_append_iff.mp h
  obtain ⟨e₁, e₂, rfl, h₁, h₂⟩ := List.filterMap_eq_append_iff.mp hcalls
  exact ⟨e₁, e₂, rfl, by rw [steps, callsOf, h₁], by rw [steps, callsOf, h₂]⟩

/-- A run that follows a plan and succeeds made no failed create or allocation. -/
theorem Follows.allocations_succeed {α : Type} {x : Run α} {plan : List Step} (h : Follows x plan)
    {a : α} (hok : x.result = .ok a) {c : Call} {err : Option String}
    (hc : (c, err) ∈ callsOf x.events) (halloc : c.allocates = true) : err = none := by
  cases err with
  | none => rfl
  | some e =>
      obtain ⟨pre, post, hsplit⟩ := List.append_of_mem hc
      obtain ⟨-, msg, hmsg⟩ := h.halts pre c e post hsplit halloc
      rw [hok] at hmsg
      cases hmsg

/-- A trace that neither creates nor deletes `o` leaves it as it was (the volume, which
allocations make, apart). -/
theorem applyAll_eq_of_untouched {o : Obj} (ho : o ≠ .volume) (evs : List Event) (s : Store)
    (hcreate : Step.create o ∉ steps evs) (hdel : Step.delete o ∉ steps evs) :
    s.applyAll evs o = s o := by
  induction evs generalizing s with
  | nil => rfl
  | cons ev evs ih =>
      have htail := steps_cons_sublist ev evs
      rw [Store.applyAll_cons, ih _ (fun h => hcreate (htail.subset h)) fun h => hdel (htail.subset h)]
      cases ev with
      | call c err =>
          simp only [steps_cons_call, List.mem_cons, not_or] at hcreate hdel
          cases c with
          | createObject o' b =>
              cases err
              · exact Function.update_noteq (by rintro rfl; exact hcreate.1 rfl) _ _
              · rfl
          | deleteObjectByYAML o' m =>
              cases err
              · exact Function.update_noteq (by rintro rfl; exact hdel.1 rfl) _ _
              · rfl
          | addVolume config pool =>
              cases err
              · exact Function.update_noteq ho _ _
              · rfl
          | _ => rfl
      | _ => rfl

/-- A trace whose creates all succeeded, and whose steps create `o` after the last
deletion of `o`, leaves `o` present. -/
theorem applyAll_eq_true_of_created_after {o : Obj} {evs : List Event} {p q : List Step}
    (s : Store) (hsteps : steps evs = p ++ q) (hcreate : Step.create o ∈ q) (hdel : Step.delete o ∉ q)
    (hsucceed : ∀ c err, (c, err) ∈ callsOf evs → c.allocates = true → err = none) :
    s.applyAll evs o = true := by
  obtain ⟨e₁, e₂, rfl, -, rfl⟩ := steps_eq_append hsteps
  obtain ⟨⟨c, err⟩, hc, hstep⟩ := List.mem_map.mp hcreate
  cases c with
  | createObject o' body =>
      obtain rfl : o = o' := (Step.create.inj hstep).symm
      obtain rfl := hsucceed (.createObject o body) err
        (callsOf_append e₁ e₂ ▸ List.mem_append_right _ hc) rfl
      rw [Store.applyAll_append]
      exact applyAll_eq_true_of_created e₂ _ hc hdel
  | _ => cases hstep

/-- A call of a trace sits between two parts of the trace. -/
theorem exists_split_of_mem_callsOf {evs : List Event} {c : Call} {err : Option String}
    (h : (c, err) ∈ callsOf evs) : ∃ e₁ e₂, evs = e₁ ++ .call c err :: e₂ := by
  obtain ⟨ev, hev, hcall⟩ := List.mem_filterMap.mp h
  cases ev with
  | call c' err' =>
      obtain ⟨rfl, rfl⟩ := Prod.mk.inj (Option.some.inj hcall)
      exact List.append_of_mem hev
  | _ => cases hcall

/-- An event that puts `o` in the store, with no deletion of `o` after it, leaves `o` in
the store. -/
theorem applyAll_eq_true_after (s : Store) {e₁ e₂ : List Event} {ev : Event} {o : Obj}
    (hset : ∀ s' : Store, s'.apply ev o = true) (hdel : Step.delete o ∉ steps e₂) :
    s.applyAll (e₁ ++ ev :: e₂) o = true := by
  rw [Store.applyAll_append, Store.applyAll_cons]
  exact applyAll_eq_true_of_not_delete e₂ (hset _) hdel

/-- A plan split where every creation before the split is of an object the plan never
deletes, and no deletion comes after it, deletes nothing it created earlier. -/
theorem no_delete_after_create_of_split {D R X L : List Step} {o : Obj}
    (h : D ++ R = X ++ .create o :: L) (hD : ∀ o, Step.create o ∈ D → Step.delete o ∉ D ++ R)
    (hR : ∀ o, Step.delete o ∉ R) : Step.delete o ∉ L := by
  have hL : L ⊆ D ++ R := h ▸ List.subset_append_of_subset_right _ (List.subset_cons_self _ _)
  rcases List.append_eq_append_iff.mp h with ⟨a', -, hR'⟩ | ⟨c', hD', hc'⟩
  · -- the creation comes after the split
    exact fun hl => hR o (hR' ▸ List.mem_append_right _ (List.mem_cons_of_mem _ hl))
  · cases c' with
    | nil =>
        rw [List.nil_append] at hc'
        exact fun hl => hR o (hc' ▸ List.mem_cons_of_mem _ hl)
    | cons x c'' =>
        -- the creation comes before the split
        obtain ⟨rfl, -⟩ := List.cons.inj hc'
        exact fun hl => hD o (hD' ▸ List.mem_append_right _ (List.mem_cons_self _ _)) (hL hl)

/-! ## The objects of an installation, and the plan -/

/-- The objects the RBAC teardown of a mode deletes. -/
def teardownObjects (native : Bool) : List Obj :=
  if native then [.clusterRoleBinding, .clusterRole, .serviceAccount] else [.serviceAccount]

/-- The workloads of a mode. -/
def workloads (csi : Bool) : List Obj :=
  if csi then [.csiService, .csiStatefulSet, .csiDaemonSet] else [.deployment]

/-- The objects of an installation: the namespace, the PVC and the PV, the RBAC objects
of the mode, and the workloads of the mode. -/
def installationObjects (csi native : Bool) : List Obj :=
  [.namespace_, .pvc, .pv] ++ rbacObjects native ++ workloads csi

section Plans

variable {csi native openShift createNamespace createPVC createPV createSecret : Bool} {o : Obj}

@[simp] theorem create_not_mem_teardownPlan : Step.create o ∉ teardownPlan native openShift := by
  cases native <;> cases openShift <;> simp [teardownPlan]

@[simp] theorem delete_mem_teardownPlan :
    Step.delete o ∈ teardownPlan native openShift ↔ o ∈ teardownObjects native := by
  cases native <;> cases openShift <;> simp [teardownPlan, teardownObjects, or_comm, or_left_comm]

@[simp] theorem create_mem_rbacPlan : Step.create o ∈ rbacPlan native openShift ↔ o ∈ rbacObjects native := by
  cases native <;> cases openShift <;> simp [rbacPlan, rbacObjects]

@[simp] theorem delete_not_mem_rbacPlan : Step.delete o ∉ rbacPlan native openShift := by
  cases native <;> cases openShift <;> simp [rbacPlan]

@[simp] theorem create_mem_pvPlan :
    Step.create o ∈ pvPlan createSecret ↔ createSecret = true ∧ o = .chapSecret ∨ o = .pv := by
  cases createSecret <;> simp [pvPlan]

@[simp] theorem delete_not_mem_pvPlan : Step.delete o ∉ pvPlan createSecret := by
  cases createSecret <;> simp [pvPlan]

@[simp] theorem create_mem_workloadPlan : Step.create o ∈ workloadPlan csi ↔ o ∈ workloads csi := by
  cases csi <;> simp [workloadPlan, workloads]

@[simp] theorem delete_not_mem_workloadPlan : Step.delete o ∉ workloadPlan csi := by
  cases csi <;> simp [workloadPlan]

/-- The plan deletes only what the teardown of its mode deletes. -/
theorem installPlan_deletes_teardown
    (h : Step.delete o ∈ installPlan csi native openShift createNamespace createPVC createPV
      createSecret) : o ∈ teardownObjects native := by
  simpa [installPlan] using h

/-- The plan creates only objects of the installation, and the CHAP secret. -/
theorem installPlan_creates
    (h : Step.create o ∈ installPlan csi native openShift createNamespace createPVC createPV
      createSecret) : o ∈ installationObjects csi native ∨ o = .chapSecret := by
  simp only [installPlan, List.mem_append, List.mem_ite_nil_right, List.mem_singleton,
    Step.create.injEq, create_not_mem_teardownPlan, create_mem_rbacPlan, create_mem_pvPlan,
    create_mem_workloadPlan, or_false] at h
  simp only [installationObjects, List.mem_append, List.mem_cons, List.mem_singleton,
    List.not_mem_nil, or_false]
  rcases h with (((⟨-, rfl⟩ | h) | ⟨-, rfl⟩) | ⟨-, ⟨-, rfl⟩ | rfl⟩) | h <;> simp [*]

theorem mem_installationObjects_of_teardown (h : o ∈ teardownObjects native) :
    o ∈ installationObjects csi native := by
  cases native <;> simp only [teardownObjects, reduceIte, Bool.false_eq_true, List.mem_cons,
    List.mem_singleton, List.not_mem_nil, or_false] at h <;>
    rcases h with rfl | rfl | rfl <;> simp [installationObjects, rbacObjects]

/-- Every object of the installation is either one the pre-checks found present (the
namespace, the PVC, the PV) or one the plan creates after its last deletion. -/
theorem installPlan_installs (ho : o ∈ installationObjects csi native) :
    (o = .namespace_ ∧ createNamespace = false) ∨ (o = .pvc ∧ createPVC = false) ∨
      (o = .pv ∧ createPV = false) ∨ ∃ p q, installPlan csi native openShift createNamespace
        createPVC createPV createSecret = p ++ q ∧ Step.create o ∈ q ∧ Step.delete o ∉ q := by
  -- an object the teardown leaves alone is created after its last deletion if at all
  have hwhole : o ∉ teardownObjects native → Step.create o ∈ installPlan csi native openShift
      createNamespace createPVC createPV createSecret → ∃ p q, installPlan csi native openShift
        createNamespace createPVC createPV createSecret = p ++ q ∧ Step.create o ∈ q ∧
          Step.delete o ∉ q :=
    fun hkept hcreate => ⟨[], _, rfl, hcreate, fun h => hkept (installPlan_deletes_teardown h)⟩
  simp only [installationObjects, List.mem_append, List.mem_cons, List.mem_singleton,
    List.not_mem_nil, or_false] at ho
  rcases ho with ((rfl | rfl | rfl) | ho) | ho
  · cases createNamespace
    · exact .inl ⟨rfl, rfl⟩
    · exact .inr (.inr (.inr (hwhole (by cases native <;> decide) (by simp [installPlan]))))
  · cases createPVC
    · exact .inr (.inl ⟨rfl, rfl⟩)
    · exact .inr (.inr (.inr (hwhole (by cases native <;> decide) (by simp [installPlan]))))
  · cases createPV
    · exact .inr (.inr (.inl ⟨rfl, rfl⟩))
    · exact .inr (.inr (.inr (hwhole (by cases native <;> decide) (by simp [installPlan]))))
  · -- the RBAC objects: created after the teardown, the plan's only deletions
    exact .inr (.inr (.inr ⟨(if createNamespace then [.create .namespace_] else []) ++
      teardownPlan native openShift, rbacPlan native openShift ++
        (if createPVC then [.create .pvc] else []) ++ (if createPV then pvPlan createSecret else []) ++
          workloadPlan csi, by simp only [installPlan, List.append_assoc], by simp [ho], by simp⟩))
  · have hkept : ∀ o, o ∈ workloads csi → o ∉ teardownObjects native := by
      cases csi <;> cases native <;> decide
    exact .inr (.inr (.inr (hwhole (hkept o ho) (by simp [installPlan, ho]))))

/-- The plan never deletes what it created earlier: its deletions come before every
creation but the namespace's, and it never deletes the namespace. -/
theorem installPlan_no_delete_after_create {X L : List Step}
    (h : installPlan csi native openShift createNamespace createPVC createPV createSecret =
      X ++ .create o :: L) :
    Step.delete o ∉ L := by
  refine no_delete_after_create_of_split
    (D := (if createNamespace then [.create .namespace_] else []) ++ teardownPlan native openShift)
    (R := rbacPlan native openShift ++ (if createPVC then [.create .pvc] else []) ++
      (if createPV then pvPlan createSecret else []) ++ workloadPlan csi)
    (by rw [← h]; simp only [installPlan, List.append_assoc]) (fun o' ho' => ?_) fun o' => ?_
  · -- before the split only the namespace is created, and it is never deleted
    obtain ⟨-, rfl⟩ : createNamespace = true ∧ o' = .namespace_ := by simpa using ho'
    cases native <;> simp [teardownObjects]
  · simp

/-- No plan deletes the volume. -/
theorem delete_volume_not_mem_installPlan :
    Step.delete .volume ∉ installPlan csi native openShift createNamespace createPVC createPV
      createSecret := by
  cases native <;> simp [installPlan, teardownObjects]

end Plans

/-! ## Every run -/

/-- Whatever the collaborators answer, and whether the run succeeds or fails, an install
run changes only the objects of its installation, the CHAP secret and the backend volume,
and of what was there it removes only the RBAC objects its mode tears down. -/
theorem installTrident_footprint (cfg : Config) (env : Env) (s : Store) (o : Obj) :
    (o ∉ installationObjects cfg.csi cfg.useKubernetesRBAC ++ [.chapSecret, .volume] →
        s.applyAll (installTrident cfg env).events o = s o) ∧
      (s o = true → o ∉ teardownObjects cfg.useKubernetesRBAC →
        s.applyAll (installTrident cfg env).events o = true) := by
  obtain ⟨_, _, _, _, -, -, -, -, hfollows⟩ := follows_installTrident cfg env
  have hplan : ∀ step ∈ steps (installTrident cfg env).events, step ∈ installPlan cfg.csi
      cfg.useKubernetesRBAC (env.flavor == .openShift) _ _ _ _ := fun step h => by
    have h := hfollows.withinPlan.subset h
    split at h
    · cases h
    · exact h
  have hdel : Step.delete o ∈ steps (installTrident cfg env).events → o ∈ teardownObjects
      cfg.useKubernetesRBAC := fun h => installPlan_deletes_teardown (hplan _ h)
  refine ⟨fun hout => ?_, fun hs hkept => applyAll_eq_true_of_not_delete _ hs (hkept ∘ hdel)⟩
  simp only [List.mem_append, List.mem_cons, List.mem_singleton, List.not_mem_nil, or_false,
    not_or] at hout
  obtain ⟨hinst, hsecret, hvolume⟩ := hout
  exact applyAll_eq_of_untouched hvolume _ s
    (fun h => (installPlan_creates (hplan _ h)).elim hinst hsecret)
    fun h => hinst (mem_installationObjects_of_teardown (hdel h))

/-- An object that a call of the run puts in the store is there at the end of the run,
when the plan deletes it nowhere after that call's step. -/
theorem applyAll_installTrident_of_call (cfg : Config) (env : Env) (s : Store) {c : Call} {o : Obj}
    (hc : (c, none) ∈ callsOf (installTrident cfg env).events)
    (hset : ∀ s' : Store, s'.apply (.call c none) o = true)
    (hplan : ∀ createNamespace createPVC createPV createSecret X L,
      installPlan cfg.csi cfg.useKubernetesRBAC (env.flavor == .openShift) createNamespace
        createPVC createPV createSecret = X ++ c.step :: L → Step.delete o ∉ L) :
    s.applyAll (installTrident cfg env).events o = true := by
  obtain ⟨_, _, _, _, -, -, -, -, hfollows⟩ := follows_installTrident cfg env
  obtain ⟨rest, hrest⟩ := hfollows.withinPlan
  obtain ⟨e₁, e₂, hevs⟩ := exists_split_of_mem_callsOf hc
  rw [hevs] at hrest ⊢
  refine applyAll_eq_true_after s hset fun hdel => ?_
  rw [steps_append, steps_cons_call, List.append_assoc, List.cons_append] at hrest
  split at hrest
  · simp at hrest
  · exact hplan _ _ _ _ _ _ hrest.symm (List.mem_append_left _ hdel)

/-- Nothing is rolled back.  Whatever the collaborators answer, and whether the run
succeeds or fails, every object the run created is still there at its end, and so is
the volume it allocated: the installer leaves the clean-up to `tridentctl uninstall`, as
its failure message says. -/
theorem installTrident_keeps_what_it_created (cfg : Config) (env : Env) (s : Store) :
    (∀ o body, (Call.createObject o body, none) ∈ callsOf (installTrident cfg env).events →
        s.applyAll (installTrident cfg env).events o = true) ∧
      ∀ config pool, (Call.addVolume config pool, none) ∈ callsOf (installTrident cfg env).events →
        s.applyAll (installTrident cfg env).events .volume = true :=
  ⟨fun _ _ hc => applyAll_installTrident_of_call cfg env s hc (fun _ => by simp [Store.apply])
      fun _ _ _ _ _ _ h => installPlan_no_delete_after_create h,
    fun _ _ hc => applyAll_installTrident_of_call cfg env s hc (fun _ => by simp [Store.apply])
      fun _ _ _ _ _ _ h hl => delete_volume_not_mem_installPlan
        (h ▸ List.mem_append_right _ (List.mem_cons_of_mem _ hl))⟩

/-! ## Every successful run -/

/-- A successful install run that is not a dry run leaves every object of its
installation present: the namespace, the PVC and the PV, whether found or created, the
RBAC objects of the mode, deleted and created again, and the workloads of the mode.  The
store is any in which no daemonset stands without its statefulset, and the run's probes
read it. -/
theorem install_leaves_installation (cfg : Config) (env : Env) (s : Store) (hinv : StoreInv s)
    (hdry : cfg.dryRun = false) (hagree : Along ProbeAgrees s (installTrident cfg env).events)
    (hok : (installTrident cfg env).result = .ok ()) :
    ∀ o ∈ installationObjects cfg.csi cfg.useKubernetesRBAC,
      s.applyAll (installTrident cfg env).events o = true := by
  have hrun : installTrident cfg env = preChecks cfg env >>= install cfg env := by
    simp only [installTrident, hdry, Bool.false_eq_true, ↓reduceIte]
  rw [hrun] at hok hagree ⊢
  obtain ⟨p, hpre, hinstall⟩ := result_bind_eq_ok.mp hok
  rw [events_bind_ok _ hpre, along_append] at hagree
  rw [events_bind_ok _ hpre, Store.applyAll_append,
    applyAll_of_callsOf_eq_nil s (noCalls_preChecks cfg env)]
  -- what the pre-checks probed is what the store holds
  obtain ⟨-, -, hprobed⟩ := triple_preChecks cfg env s trivial hinv hagree.1
  obtain ⟨-, hns, hpvc, hpv⟩ := hprobed p hpre
  rw [applyAll_of_callsOf_eq_nil s (noCalls_preChecks cfg env)] at hns hpvc hpv
  -- the mutation phase ran its whole plan, and each of its creates succeeded
  obtain ⟨secret, -, hfollows⟩ := follows_install cfg env p
  have hsteps := hfollows.wholePlan () hinstall
  have hsucceed : ∀ c err, (c, err) ∈ callsOf (install cfg env p).events → c.allocates = true →
      err = none := fun _ _ hc halloc => hfollows.allocations_succeed hinstall hc halloc
  have hkept : ∀ o, s o = true → o ∉ teardownObjects cfg.useKubernetesRBAC →
      s.applyAll (install cfg env p).events o = true := fun o hs hkept =>
    applyAll_eq_true_of_not_delete _ hs fun h => hkept (installPlan_deletes_teardown (hsteps ▸ h))
  intro o ho
  rcases @installPlan_installs cfg.csi cfg.useKubernetesRBAC (env.flavor == .openShift)
      (!p.namespaceExists) (!p.pvcExists) p.storageBackend.isSome secret o ho with
    ⟨rfl, hfound⟩ | ⟨rfl, hfound⟩ | ⟨rfl, hfound⟩ | ⟨pre, post, hplan, hcreate, hdel⟩
  · exact hkept _ (hns.trans (by simpa using hfound)) (by cases cfg.useKubernetesRBAC <;> decide)
  · exact hkept _ (hpvc.trans (by simpa using hfound)) (by cases cfg.useKubernetesRBAC <;> decide)
  · exact hkept _ (hpv.trans (by simpa using hfound)) (by cases cfg.useKubernetesRBAC <;> decide)
  · exact applyAll_eq_true_of_created_after s (hsteps.trans hplan) hcreate hdel hsucceed

/-- The default installation into a healthy, empty cluster leaves every object of it. -/
theorem healthy_install_leaves_installation :
    StoreInv Store.empty ∧ sampleConfig.dryRun = false ∧
      Along ProbeAgrees Store.empty (installTrident sampleConfig healthyEnv).events ∧
      (installTrident sampleConfig healthyEnv).result = .ok () ∧
      ∀ o ∈ installationObjects sampleConfig.csi sampleConfig.useKubernetesRBAC,
        Store.empty.applyAll (installTrident sampleConfig healthyEnv).events o = true :=
  have hinv : StoreInv Store.empty := by decide
  have hagree : Along ProbeAgrees Store.empty (installTrident sampleConfig healthyEnv).events := by
    decide
  have hok : (installTrident sampleConfig healthyEnv).result = .ok () := by decide
  ⟨hinv, rfl, hagree, hok,
    install_leaves_installation sampleConfig healthyEnv Store.empty hinv rfl hagree hok⟩

end TridentInstaller
