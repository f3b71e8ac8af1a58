import TridentInstaller.Calls
set_option autoImplicit false

/-!
# When `installTrident` touches the cluster

`installTrident` makes its first mutating call exactly when every pre-check passes
(`PreChecksPass`, one condition per check) and the run is not a dry run.
-/

namespace TridentInstaller

open Run

/-! ## The pre-checks, as conditions on the answers -/

/-- A label map that is not nil and whose lookup of `key` reads `value`; the code's
`labels == nil || labels[key] != value` is its negation. -/
def CarriesLabel (labels : Labels) (key value : String) : Prop :=
  labels.isSome ∧ lookupLabel labels key = value

/-- Trident is not installed yet, as the mode's check reports it. -/
def NotInstalled (cfg : Config) (env : Env) : Prop :=
  if cfg.csi then
    env.version.atLeast cfg.build.kubernetesCSIVersionMin = true ∧
      ∃ ns, env.isCSITridentInstalled = .ok (false, ns)
  else ∃ ns, env.isTridentInstalled = .ok (false, ns)

/-- An existing PVC the installation can use: not Lost, not Bound to another volume,
labelled. -/
def PVCUsable (cfg : Config) (pvc : PersistentVolumeClaim) : Prop :=
  pvc.phase ≠ "Lost" ∧ ¬ (pvc.phase = "Bound" ∧ pvc.volumeName ≠ cfg.pvName) ∧
    CarriesLabel pvc.labels cfg.appLabelKey cfg.appLabelValue

/-- An existing PV the installation can use: neither Released nor Failed, when Bound
claimed only by our PVC in our namespace, labelled. -/
def PVUsable (cfg : Config) (pv : PersistentVolume) : Prop :=
  pv.phase ≠ "Released" ∧ pv.phase ≠ "Failed" ∧
    (pv.phase = "Bound" → ∀ ref, pv.claimRef = some ref →
      ref.name = cfg.pvcName ∧ ref.namespace_ = cfg.namespace_) ∧
    CarriesLabel pv.labels cfg.appLabelKey cfg.appLabelValue

/-- The storage driver starts: the setup directory and the backend file are not missing,
the file reads and the driver accepts it. -/
def DriverLoads (cfg : Config) (env : Env) : Prop :=
  (∀ e, env.files.stat cfg.paths.setupPath ≠ .notExist e) ∧
    (∀ e, env.files.stat cfg.paths.backendConfigFilePath ≠ .notExist e) ∧
    ∃ text sb, env.files.readFile cfg.paths.backendConfigFilePath = .ok text ∧
      env.newStorageBackendForConfig text = .ok sb

/-- Every pre-check of `installTrident` passes. -/
structure PreChecksPass (cfg : Config) (env : Env) : Prop where
  sizeParses : ∃ q, env.parseQuantity cfg.volumeSize = .ok q
  notInstalled : NotInstalled cfg env
  namespaceChecked : ∃ b, env.checkNamespaceExists cfg.namespace_ = .ok b
  pvcChecked : ∃ b, env.checkPVCExists cfg.pvcName = .ok b
  pvChecked : ∃ b, env.checkPVExists cfg.pvName = .ok b
  pvcUsable : env.checkPVCExists cfg.pvcName = .ok true →
    ∃ pvc, env.getPVC cfg.pvcName = .ok pvc ∧ PVCUsable cfg pvc
  pvUsable : env.checkPVExists cfg.pvName = .ok true →
    ∃ pv, env.getPV cfg.pvName = .ok pv ∧ PVUsable cfg pv
  driverLoads : env.checkPVExists cfg.pvName = .ok false → DriverLoads cfg env

/-! ## One result lemma per check -/

section Results

variable {α : Type}

@[simp] theorem result_expect_eq_ok (answer : Except String α) (wrap : String → String) (a : α) :
    (expect answer wrap).result = .ok a ↔ answer = .ok a := by
  cases answer <;> simp

@[simp] theorem result_stopIf_eq_ok (c : Bool) (msg : String) (u : Unit) :
    (stopIf c msg).result = .ok u ↔ c = false := by
  cases c <;> simp

@[simp] theorem result_log (level : Level) (msg : String) (fields : List (String × Value)) :
    (log level msg fields).result = .ok () := rfl

@[simp] theorem result_probe (o : Obj) (present : Bool) : (probe o present).result = .ok () := rfl

@[simp] theorem result_onlyIf_log (c : Bool) (level : Level) (msg : String)
    (fields : List (String × Value)) : (onlyIf c (log level msg fields)).result = .ok () := by
  cases c <;> rfl

/-- A check that answers, and whose positive answer must satisfy `P`. -/
theorem exists_ok_and_imp (answer : Except String Bool) (P : Prop) :
    (∃ b, answer = .ok b ∧ (b = true → P)) ↔ (∃ b, answer = .ok b) ∧ (answer = .ok true → P) := by
  constructor
  · rintro ⟨b, hb, hP⟩
    exact ⟨⟨b, hb⟩, fun h => hP (by simpa [hb] using h)⟩
  · rintro ⟨⟨b, hb⟩, hP⟩
    exact ⟨b, hb, fun h => hP (h ▸ hb)⟩

end Results

section Checks

variable (cfg : Config) (env : Env)

theorem result_checkAlreadyInstalled (u : Unit) :
    (checkAlreadyInstalled cfg env).result = .ok u ↔ NotInstalled cfg env := by
  unfold checkAlreadyInstalled NotInstalled
  split <;> simp only [probe_bind, log_bind, result_bind_eq_ok, result_stopIf_eq_ok,
    Bool.not_eq_eq_eq_not, Bool.not_false, result_expect_eq_ok, result_log, and_true, exists_const,
    Prod.exists, exists_and_right, exists_eq_right]

theorem result_checkNamespace (b : Bool) :
    (checkNamespace cfg env).result = .ok b ↔ env.checkNamespaceExists cfg.namespace_ = .ok b := by
  simp [checkNamespace, result_bind_eq_ok]

theorem result_checkExistingPVC (u : Unit) :
    (checkExistingPVC cfg env).result = .ok u ↔
      ∃ pvc, env.getPVC cfg.pvcName = .ok pvc ∧ PVCUsable cfg pvc := by
  simp only [checkExistingPVC, ne_eq, decide_not, result_bind_eq_ok, result_expect_eq_ok,
    result_stopIf_eq_ok, decide_eq_false_iff_not, Bool.and_eq_false_imp, decide_eq_true_eq,
    Bool.not_eq_eq_eq_not, Bool.not_false, Bool.or_eq_false_iff, Option.isNone_eq_false_iff,
    result_log, and_true, exists_const, PVCUsable, not_and, Decidable.not_not, CarriesLabel]

/-- The shape of the PVC and PV checks: ask whether the object exists, probe the answer,
and check an existing object. -/
theorem result_existenceCheck {o : Obj} {answer : Except String Bool} {wrap : String → String}
    {existing : Run Unit} {msg : String} {fields : List (String × Value)} {P : Prop}
    (hexisting : ∀ u, existing.result = .ok u ↔ P) (b : Bool) :
    (do
      let exists_ ← expect answer wrap
      probe o exists_
      (if exists_ then existing else log .debug msg fields)
      Run.pure exists_ : Run Bool).result = .ok b ↔ answer = .ok b ∧ (b = true → P) := by
  cases answer with
  | error e => simp only [expect_error, fail_bind, result_fail, reduceCtorEq, false_and]
  | ok b' =>
      cases b' <;> cases b <;> simp only [expect_ok, probe_bind, Run.pure_bind, ↓reduceIte,
        log_bind, events_pure, result_bind_eq_ok, hexisting, result_pure, Except.ok.injEq,
        Bool.false_eq_true, Bool.true_eq_false, IsEmpty.forall_iff, forall_const, exists_const,
        and_self, and_true, and_false, false_and, true_and]

theorem result_checkPVC (b : Bool) :
    (checkPVC cfg env).result = .ok b ↔ env.checkPVCExists cfg.pvcName = .ok b ∧
      (b = true → ∃ pvc, env.getPVC cfg.pvcName = .ok pvc ∧ PVCUsable cfg pvc) :=
  result_existenceCheck (result_checkExistingPVC cfg env) b

theorem result_checkClaimRef (pv : PersistentVolume) (u : Unit) :
    (checkClaimRef cfg pv).result = .ok u ↔
      (pv.phase = "Bound" → ∀ ref, pv.claimRef = some ref →
        ref.name = cfg.pvcName ∧ ref.namespace_ = cfg.namespace_) := by
  unfold checkClaimRef
  split
  · rename_i ref href
    by_cases hb : pv.phase = "Bound" <;> simp [hb, href, result_bind_eq_ok]
  · simp_all

theorem result_warnPVSize (requested : Quantity) (pv : PersistentVolume) :
    (warnPVSize cfg requested pv).result = .ok () := by
  unfold warnPVSize
  split <;> simp

theorem result_checkExistingPV (requested : Quantity) (u : Unit) :
    (checkExistingPV cfg env requested).result = .ok u ↔
      ∃ pv, env.getPV cfg.pvName = .ok pv ∧ PVUsable cfg pv := by
  simp only [checkExistingPV, ne_eq, decide_not, result_bind_eq_ok, result_expect_eq_ok,
    result_stopIf_eq_ok, decide_eq_false_iff_not, result_checkClaimRef, Bool.or_eq_false_iff,
    Option.isNone_eq_false_iff, Bool.not_eq_eq_eq_not, Bool.not_false, decide_eq_true_eq,
    result_warnPVSize, Except.ok.injEq, result_bind_ok, result_log, and_true, exists_const,
    PVUsable, CarriesLabel]

theorem result_checkPV (requested : Quantity) (b : Bool) :
    (checkPV cfg env requested).result = .ok b ↔ env.checkPVExists cfg.pvName = .ok b ∧
      (b = true → ∃ pv, env.getPV cfg.pvName = .ok pv ∧ PVUsable cfg pv) :=
  result_existenceCheck (result_checkExistingPV cfg env requested) b

theorem result_requireExists (st : Stat) (failure : String) (u : Unit) :
    (requireExists st failure).result = .ok u ↔ ∀ e, st ≠ .notExist e := by
  cases st <;> simp [requireExists]

theorem result_loadStorageDriver_eq_ok (sb : Backend) :
    (loadStorageDriver cfg env).result = .ok sb ↔
      (∀ e, env.files.stat cfg.paths.setupPath ≠ .notExist e) ∧
      (∀ e, env.files.stat cfg.paths.backendConfigFilePath ≠ .notExist e) ∧
      ∃ text, env.files.readFile cfg.paths.backendConfigFilePath = .ok text ∧
        env.newStorageBackendForConfig text = .ok sb := by
  simp [loadStorageDriver, result_bind_eq_ok, result_requireExists]

theorem exists_result_loadStorageDriver :
    (∃ sb, (loadStorageDriver cfg env).result = .ok sb) ↔ DriverLoads cfg env := by
  simp only [result_loadStorageDriver_eq_ok, DriverLoads]
  constructor
  · rintro ⟨sb, h₁, h₂, text, htext, hsb⟩
    exact ⟨h₁, h₂, text, sb, htext, hsb⟩
  · rintro ⟨h₁, h₂, text, sb, htext, hsb⟩
    exact ⟨sb, h₁, h₂, text, htext, hsb⟩

theorem exists_result_loadStorageDriverIfNeeded (pvExists : Bool) :
    (∃ sb, (loadStorageDriverIfNeeded cfg env pvExists).result = .ok sb) ↔
      (pvExists = false → DriverLoads cfg env) := by
  rw [← exists_result_loadStorageDriver]
  cases pvExists
  · simp only [loadStorageDriverIfNeeded, Bool.false_eq_true, if_false, result_bind_eq_ok,
      Run.result_pure, Except.ok.injEq, forall_const]
    constructor
    · rintro ⟨_, sb, hsb, -⟩
      exact ⟨sb, hsb⟩
    · rintro ⟨sb, hsb⟩
      exact ⟨_, sb, hsb, rfl⟩
  · simp [loadStorageDriverIfNeeded]

theorem result_loadStorageDriverIfNeeded (pvExists : Bool) (r : Option Backend) :
    (loadStorageDriverIfNeeded cfg env pvExists).result = .ok r ↔
      (pvExists = true ∧ r = none) ∨
        (pvExists = false ∧ ∃ sb, r = some sb ∧ (loadStorageDriver cfg env).result = .ok sb) := by
  cases pvExists
  · simp only [loadStorageDriverIfNeeded, Bool.false_eq_true, if_false, result_bind_eq_ok,
      Run.result_pure, Except.ok.injEq, false_and, true_and, false_or]
    constructor
    · rintro ⟨sb, hsb, rfl⟩
      exact ⟨sb, rfl, hsb⟩
    · rintro ⟨sb, rfl, hsb⟩
      exact ⟨sb, hsb, rfl⟩
  · simp [loadStorageDriverIfNeeded, eq_comm]

/-- What a successful pre-check phase saw: the three existence answers, and the driver
it loaded when the PV was absent. -/
theorem preChecks_answers {p : Probed} (hp : (preChecks cfg env).result = .ok p) :
    env.checkNamespaceExists cfg.namespace_ = .ok p.namespaceExists ∧
      env.checkPVCExists cfg.pvcName = .ok p.pvcExists ∧
      env.checkPVExists cfg.pvName = .ok p.storageBackend.isNone ∧
      ∀ sb, p.storageBackend = some sb → (loadStorageDriver cfg env).result = .ok sb := by
  simp only [preChecks, result_bind_eq_ok, result_expect_eq_ok, result_log, Run.result_pure,
    result_checkNamespace, result_checkPVC, result_checkPV, result_checkAlreadyInstalled,
    result_loadStorageDriverIfNeeded] at hp
  obtain ⟨_, _, -, -, -, -, bns, hns, bpvc, ⟨hpvc, -⟩, bpv, ⟨hpv, -⟩, r, hr, heq⟩ := hp
  obtain rfl := Except.ok.inj heq
  rcases hr with ⟨rfl, rfl⟩ | ⟨rfl, sb, rfl, hload⟩
  · exact ⟨hns, hpvc, hpv, fun _ h => by cases h⟩
  · exact ⟨hns, hpvc, hpv, fun _ h => by cases h; exact hload⟩

/-- The pre-check phase succeeds exactly when every pre-check passes. -/
theorem result_preChecks : (∃ p, (preChecks cfg env).result = .ok p) ↔ PreChecksPass cfg env := by
  simp only [preChecks, result_bind_eq_ok, result_expect_eq_ok, result_log, Run.result_pure,
    result_checkNamespace, result_checkPVC, result_checkPV, result_checkAlreadyInstalled]
  constructor
  · rintro ⟨_, q, hq, -, -, -, hinst, bns, hns, bpvc, ⟨hpvc, hpvcOk⟩, bpv, ⟨hpv, hpvOk⟩, sb, hsb, -⟩
    have hdriver := (exists_result_loadStorageDriverIfNeeded cfg env bpv).mp ⟨sb, hsb⟩
    exact ⟨⟨q, hq⟩, hinst, ⟨bns, hns⟩, ⟨bpvc, hpvc⟩, ⟨bpv, hpv⟩,
      ((exists_ok_and_imp _ _).mp ⟨bpvc, hpvc, hpvcOk⟩).2,
      ((exists_ok_and_imp _ _).mp ⟨bpv, hpv, hpvOk⟩).2,
      fun h => hdriver (by simpa [hpv] using h)⟩
  · rintro ⟨⟨q, hq⟩, hinst, ⟨bns, hns⟩, ⟨bpvc, hpvc⟩, ⟨bpv, hpv⟩, hpvcOk, hpvOk, hdriver⟩
    obtain ⟨sb, hsb⟩ := (exists_result_loadStorageDriverIfNeeded cfg env bpv).mpr
      fun h => hdriver (h ▸ hpv)
    exact ⟨_, q, hq, (), trivial, (), hinst, bns, hns, bpvc, ⟨hpvc, fun h => hpvcOk (h ▸ hpvc)⟩,
      bpv, ⟨hpv, fun h => hpvOk (h ▸ hpv)⟩, sb, hsb, rfl⟩

end Checks

/-! ## The mutation phase always calls -/

section Mutation

variable {α β : Type} (cfg : Config) (env : Env)

theorem MakesCall.bind {x : Run α} {f : α → Run β} (h : MakesCall x.events) :
    MakesCall (x >>= f).events := by
  cases hx : x.result with
  | ok a =>
      rw [events_bind_ok f hx]
      exact fun hnil => h (List.append_eq_nil.mp (callsOf_append .. ▸ hnil)).1
  | error e => rwa [events_bind_error f hx]

theorem makesCall_removeRBACObjects (logLevel : Level) :
    MakesCall (removeRBACObjects cfg env logLevel).events := by
  unfold removeRBACObjects
  refine MakesCall.bind ?_
  cases cfg.useKubernetesRBAC
  · simp only [Bool.false_eq_true, if_false]
    refine MakesCall.bind ?_
    unfold ucpBestEffort
    split <;> simp [MakesCall]
  · exact MakesCall.bind (by simp [MakesCall])

theorem makesCall_createNamespace : MakesCall (createNamespace cfg env).events := by
  unfold createNamespace
  rw [createObjectFromFileOrYAML_of_not_validationFails]
  · split <;> simp [MakesCall]
  · rintro ⟨-, _, _, ⟨⟩⟩

/-- Past the dry-run stop, a run always makes a call: the namespace creation, or the
first deletion of the RBAC teardown. -/
theorem makesCall_install (p : Probed) : MakesCall (install cfg env p).events := by
  unfold install
  simp only [log_bind, MakesCall, callsOf_cons_log]
  cases p.namespaceExists
  · exact MakesCall.bind (makesCall_createNamespace cfg env)
  · simp only [Bool.not_true, onlyIf_false, pure_bind]
    exact MakesCall.bind (makesCall_removeRBACObjects cfg env .debug)

end Mutation

/-- `installTrident` makes a mutating call exactly when every pre-check passes and the
run is not a dry run. -/
theorem installTrident_makesCall_iff (cfg : Config) (env : Env) :
    MakesCall (installTrident cfg env).events ↔ PreChecksPass cfg env ∧ cfg.dryRun = false := by
  have hquiet : callsOf (preChecks cfg env).events = [] := noCalls_preChecks cfg env
  rw [← result_preChecks]
  cases hpre : (preChecks cfg env).result with
  | error e =>
      simp [MakesCall, installTrident, events_bind_error _ hpre, hquiet]
  | ok p =>
      simp only [installTrident, MakesCall, events_bind_ok _ hpre, callsOf_append, hquiet,
        List.nil_append, Except.ok.injEq, exists_eq', true_and]
      cases cfg.dryRun
      · simpa [MakesCall] using makesCall_install cfg env p
      · simpa using noCalls_log ..

end TridentInstaller
