import TridentInstaller.Plan
set_option autoImplicit false

/-!
# Re-running the installer against a persistent store

The cluster and the storage backend are one store of objects, each present or absent,
changed by a run's successful calls (`Store.apply`).  The UCP role and the OpenShift
SCC are not objects of the store.  A session is a sequence of install runs, each
answered by the store the runs before it left.
-/

namespace TridentInstaller

open Run

/-! ## The store and what runs do to it -/

/-- Which objects exist. -/
abbrev Store := Obj → Bool

/-- The store with nothing in it. -/
def Store.empty : Store := fun _ => false

/-- The object a call brings into being. -/
def Call.target : Call → Option Obj
  | .createObject o _ => some o
  | .addVolume _ _ => some .volume
  | _ => none

/-- The effect of one event: only successful creates, deletions and allocations
change the store. -/
def Store.apply (s : Store) : Event → Store
  | .call (.createObject o _) none => Function.update s o true
  | .call (.deleteObjectByYAML o _) none => Function.update s o false
  | .call (.addVolume _ _) none => Function.update s .volume true
  | _ => s

/-- The effect of a trace. -/
def Store.applyAll (s : Store) (evs : List Event) : Store := evs.foldl Store.apply s

@[simp] theorem Store.applyAll_nil (s : Store) : s.applyAll [] = s := rfl

@[simp] theorem Store.applyAll_cons (s : Store) (ev : Event) (evs : List Event) :
    s.applyAll (ev :: evs) = (s.apply ev).applyAll evs := rfl

@[simp] theorem Store.applyAll_append (s : Store) (l₁ l₂ : List Event) :
    s.applyAll (l₁ ++ l₂) = (s.applyAll l₁).applyAll l₂ :=
  List.foldl_append ..

/-- `R` holds at every event of a trace, of the store as it stands when the event
happens. -/
def Along (R : Store → Event → Prop) : Store → List Event → Prop
  | _, [] => True
  | s, ev :: evs => R s ev ∧ Along R (s.apply ev) evs

instance instDecidableAlong (R : Store → Event → Prop) [∀ s ev, Decidable (R s ev)] :
    ∀ s evs, Decidable (Along R s evs)
  | _, [] => isTrue trivial
  | s, ev :: evs =>
      have := instDecidableAlong R (s.apply ev) evs
      inferInstanceAs (Decidable (R s ev ∧ Along R (s.apply ev) evs))

@[simp] theorem along_nil (R : Store → Event → Prop) (s : Store) : Along R s [] := trivial

@[simp] theorem along_cons (R : Store → Event → Prop) (s : Store) (ev : Event) (evs : List Event) :
    Along R s (ev :: evs) ↔ R s ev ∧ Along R (s.apply ev) evs := Iff.rfl

theorem along_append (R : Store → Event → Prop) (s : Store) (l₁ l₂ : List Event) :
    Along R s (l₁ ++ l₂) ↔ Along R s l₁ ∧ Along R (s.applyAll l₁) l₂ := by
  induction l₁ generalizing s with
  | nil => simp
  | cons ev evs ih => simp [ih, and_assoc]

/-! ## The environment a store answers with, and the property -/

/-- A probe answers what the store holds. -/
def ProbeAgrees (s : Store) : Event → Prop
  | .probe o present => s o = present
  | _ => True

/-- A create or allocation that succeeds finds its object absent: creating what exists
fails. -/
def CreateFailsIfPresent (s : Store) : Event → Prop
  | .call c none => ∀ o ∈ c.target, s o = false
  | _ => True

/-- A create or allocation targets an absent object, unless the object is exempt. -/
def TargetAbsent (exempt : List Obj) (s : Store) : Event → Prop
  | .call c _ => ∀ o ∈ c.target, o ∈ exempt ∨ s o = false
  | _ => True

instance (s : Store) : ∀ ev, Decidable (ProbeAgrees s ev)
  | .call _ _ => isTrue trivial
  | .probe o present => inferInstanceAs (Decidable (s o = present))
  | .log _ => isTrue trivial
  | .writeFile _ _ _ => isTrue trivial
  | .removeFile _ _ => isTrue trivial

instance (s : Store) : ∀ ev, Decidable (CreateFailsIfPresent s ev)
  | .call c none => inferInstanceAs (Decidable (∀ o ∈ c.target, s o = false))
  | .call _ (some _) => isTrue trivial
  | .probe _ _ => isTrue trivial
  | .log _ => isTrue trivial
  | .writeFile _ _ _ => isTrue trivial
  | .removeFile _ _ => isTrue trivial

instance (exempt : List Obj) (s : Store) : ∀ ev, Decidable (TargetAbsent exempt s ev)
  | .call c _ => inferInstanceAs (Decidable (∀ o ∈ c.target, o ∈ exempt ∨ s o = false))
  | .probe _ _ => isTrue trivial
  | .log _ => isTrue trivial
  | .writeFile _ _ _ => isTrue trivial
  | .removeFile _ _ => isTrue trivial

/-- The traces of a session of install runs with one configuration. -/
def installTraces (cfg : Config) (envs : List Env) : List (List Event) :=
  envs.map fun env => (installTrident cfg env).events

/-- `R` holds of every run of a session, each run starting on the store the runs
before it left. -/
def EveryRun (R : Store → List Event → Prop) : Store → List (List Event) → Prop
  | _, [] => True
  | s, evs :: runs => R s evs ∧ EveryRun R (s.applyAll evs) runs

instance instDecidableEveryRun (R : Store → List Event → Prop) [∀ s evs, Decidable (R s evs)] :
    ∀ s runs, Decidable (EveryRun R s runs)
  | _, [] => isTrue trivial
  | s, evs :: runs =>
      have := instDecidableEveryRun R (s.applyAll evs) runs
      inferInstanceAs (Decidable (R s evs ∧ EveryRun R (s.applyAll evs) runs))

/-- The runs of a session are answered as the store stands: every probe is truthful and
creating what exists fails. -/
def Consistent (s : Store) (evs : List Event) : Prop :=
  Along ProbeAgrees s evs ∧ Along CreateFailsIfPresent s evs

instance (s : Store) (evs : List Event) : Decidable (Consistent s evs) :=
  inferInstanceAs (Decidable (Along ProbeAgrees s evs ∧ Along CreateFailsIfPresent s evs))

/-- Every create and allocation of a run targets an object absent when it is made,
unless the object is exempt. -/
def TargetsAbsent (exempt : List Obj) (s : Store) (evs : List Event) : Prop :=
  Along (TargetAbsent exempt) s evs

instance (exempt : List Obj) (s : Store) (evs : List Event) : Decidable (TargetsAbsent exempt s evs) :=
  inferInstanceAs (Decidable (Along (TargetAbsent exempt) s evs))

/-! ## A re-run after a failed PV creation -/

/-- The build constants, with the label the released installer uses. -/
def sampleBuild : Build where
  orchestratorName := "trident"
  buildImage := "netapp/trident:18.07.0"
  buildEtcdImage := "quay.io/coreos/etcd:v3.2.19"
  buildEtcdVersion := "v3.2.19"
  kubernetesCSIVersionMin := ⟨1, 10, 0, "", ""⟩
  containerTrident := "trident-main"
  podServer := "127.0.0.1:8000"
  tridentLabel := "app=trident.netapp.io"
  tridentLabelKey := "app"
  tridentLabelValue := "trident.netapp.io"
  tridentCSILabel := "app=controller.csi.trident.netapp.io"
  tridentCSILabelKey := "app"
  tridentCSILabelValue := "controller.csi.trident.netapp.io"
  tridentNodeLabelKey := "app"
  tridentNodeLabelValue := "node.csi.trident.netapp.io"

/-- A default non-CSI installation into namespace `trident`. -/
def sampleConfig : Config where
  build := sampleBuild
  dryRun := false
  useYAML := false
  csi := false
  pvName := "trident"
  pvcName := "trident"
  volumeName := "trident"
  volumeSize := "2Gi"
  tridentImage := "netapp/trident:18.07.0"
  etcdImage := "quay.io/coreos/etcd:v3.2.19"
  k8sTimeout := 180000000000
  useKubernetesRBAC := true
  ucpBearerToken := ""
  ucpHost := ""
  namespace_ := "trident"
  debug := false
  paths := prepareYAMLFilePaths "/opt/trident"
  appLabel := "app=trident.netapp.io"
  appLabelKey := "app"
  appLabelValue := "trident.netapp.io"

/-- The first run, on an empty cluster: everything is absent and every call succeeds
but the creation of the PV. -/
def firstRunEnv : Env where
  parseQuantity := documentedParseQuantity
  goos := "linux"
  newKubectlClient := none
  newUCPClient := none
  installerDirectory := .ok "/opt/trident"
  currentNamespace := "trident"
  flavor := .kubernetes
  version := ⟨1, 11, 0, "", ""⟩
  cli := "kubectl"
  isTridentInstalled := .ok (false, "")
  isCSITridentInstalled := .ok (false, "")
  checkNamespaceExists := fun _ => .ok false
  checkPVCExists := fun _ => .ok false
  getPVC := fun _ => .error "not found"
  checkPVExists := fun _ => .ok false
  getPV := fun _ => .error "not found"
  files := ⟨fun _ => .exists_, fun _ => .ok "{}"⟩
  writeFile := fun _ => none
  removeFile := fun _ => none
  readPVCFromFile := fun _ => .error "no file"
  readDeploymentFromFile := fun _ => .error "no file"
  readServiceFromFile := fun _ => .error "no file"
  readStatefulSetFromFile := fun _ => .error "no file"
  readDaemonSetFromFile := fun _ => .error "no file"
  newStorageBackendForConfig := fun _ => .ok ⟨"nfs", "ontap-nas", "file", ["aggr1"]⟩
  poolChoice := 0
  addVolume := fun _ _ => .ok ⟨"trident", ⟨"10.0.0.1", "/trident", "", "", 0, "", "", ""⟩⟩
  chapSecretName := fun v => v.name
  checkSecretExists := fun _ => .ok false
  create := fun o => if o = .pv then some "PV creation timed out" else none
  delete := fun _ => none
  addTridentUserToOpenShiftSCC := none
  removeTridentUserFromOpenShiftSCC := none
  createTridentRole := .ok true
  addTridentRoleToServiceAccount := .ok true
  removeTridentRoleFromServiceAccount := .ok true
  deleteTridentRole := .ok true
  checkPVCBound := fun _ => .ok true
  pvcBackOff := []
  getPodByLabel := fun _ => .ok ⟨"trident-0", "Running", ""⟩
  podBackOff := []
  exec := fun _ _ => ("{}", none)
  unmarshalVersion := fun _ => .ok "18.07.0"
  restBackOff := []

/-- The re-run: the namespace and the PVC are there now, the PV is not, and the
volume the first run allocated makes `AddVolume` fail. -/
def secondRunEnv : Env :=
  { firstRunEnv with
    checkNamespaceExists := fun _ => .ok true
    checkPVCExists := fun _ => .ok true
    getPVC := fun _ => .ok ⟨"trident", "trident", some [("app", "trident.netapp.io")], "Pending", ""⟩
    addVolume := fun _ _ => .error "volume trident already exists" }

/-- A session in which the second run allocates a volume the first left behind: the
first run allocated it and then failed to create the PV; the second finds the PV absent
and calls `AddVolume` again. -/
theorem rerun_after_failed_pv_reallocates_volume :
    ¬ ∀ (cfg : Config) (envs : List Env), EveryRun Consistent Store.empty (installTraces cfg envs) →
      EveryRun (TargetsAbsent []) Store.empty (installTraces cfg envs) := fun h =>
  absurd (h sampleConfig [firstRunEnv, secondRunEnv] (by decide)) (by decide)

/-- The CSI installation of the same session shape, with the statefulset failing. -/
def sampleCSIConfig : Config :=
  { sampleConfig with
    csi := true, pvName := "trident-csi", pvcName := "trident-csi", volumeName := "trident-csi",
    appLabel := "app=controller.csi.trident.netapp.io",
    appLabelValue := "controller.csi.trident.netapp.io" }

/-- First CSI run: everything is created up to the statefulset, which fails. -/
def firstCSIRunEnv : Env :=
  { firstRunEnv with create := fun o => if o = .csiStatefulSet then some "timeout" else none }

/-- Second CSI run: the namespace, PVC and PV exist, the statefulset does not, and the
service the first run created is still there. -/
def secondCSIRunEnv : Env :=
  { firstCSIRunEnv with
    checkNamespaceExists := fun _ => .ok true
    checkPVCExists := fun _ => .ok true
    getPVC := fun _ => .ok ⟨"trident-csi", "trident", some [("app", "controller.csi.trident.netapp.io")],
      "Bound", "trident-csi"⟩
    checkPVExists := fun _ => .ok true
    getPV := fun _ => .ok ⟨some [("app", "controller.csi.trident.netapp.io")], "Bound",
      some ⟨"trident-csi", "trident"⟩, none⟩
    create := fun o => if o = .csiService then some "already exists" else none }

/-- Without the CSI service among the exempt objects the property fails too: the re-run
creates the service the failed run left. -/
example : EveryRun Consistent Store.empty (installTraces sampleCSIConfig [firstCSIRunEnv, secondCSIRunEnv]) ∧
    ¬ EveryRun (TargetsAbsent [.volume]) Store.empty
      (installTraces sampleCSIConfig [firstCSIRunEnv, secondCSIRunEnv]) := by
  decide

end TridentInstaller
