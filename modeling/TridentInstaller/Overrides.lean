import TridentInstaller.Objects
set_option autoImplicit false

/-!
# Override files and their validators

With `--use-custom-yaml` the PVC and the workloads are read from their setup files and
validated first.  The deployment and statefulset validators are one check
(`validatePodController`); the daemonset validator checks the node label although its
messages name the app label.
-/

namespace TridentInstaller

open Run

/-! ## Validators -/

/-- The validators' container loop: the image of the last container named `name`, or
`""` when there is none. -/
def containerImage (containers : List Container) (name : String) : String :=
  containers.foldl (fun image c => if c.name = name then c.image else image) ""

/-- The check `validateTridentDeployment` and `validateTridentStatefulSet` share: the
object and its pod template carry `labelKey: labelValue`, and a container named
`container` has an image. -/
def validatePodController (kind : String) (read : Except String PodController)
    (labelKey labelValue container : String) : Except String Unit :=
  match read with
  | .error e => .error ("could not load " ++ kind ++ " YAML file; " ++ e)
  | .ok obj =>
      if lookupLabel obj.labels labelKey ≠ labelValue then
        .error ("the Trident " ++ kind ++ " must have the label \"" ++ labelKey ++ ": " ++
          labelValue ++ "\"")
      else if lookupLabel obj.templateLabels labelKey ≠ labelValue then
        .error ("the Trident " ++ kind ++ "'s pod template must have the label \"" ++ labelKey ++
          ": " ++ labelValue ++ "\"")
      else if containerImage obj.containers container = "" then
        .error ("the Trident " ++ kind ++ " must define the " ++ container ++ " container")
      else .ok ()

/-- `validateTridentDeployment`. -/
def validateTridentDeployment (cfg : Config) (env : Env) : Except String Unit :=
  validatePodController "deployment" (env.readDeploymentFromFile cfg.paths.deploymentPath)
    cfg.appLabelKey cfg.appLabelValue cfg.build.containerTrident

/-- `validateTridentStatefulSet`. -/
def validateTridentStatefulSet (cfg : Config) (env : Env) : Except String Unit :=
  validatePodController "statefulset" (env.readStatefulSetFromFile cfg.paths.csiStatefulSetPath)
    cfg.appLabelKey cfg.appLabelValue cfg.build.containerTrident

/-- `validateTridentDaemonSet`: the node label is checked, the app label is named. -/
def validateTridentDaemonSet (cfg : Config) (env : Env) : Except String Unit :=
  let nodeKey := cfg.build.tridentNodeLabelKey
  let nodeValue := cfg.build.tridentNodeLabelValue
  match env.readDaemonSetFromFile cfg.paths.csiDaemonSetPath with
  | .error e => .error ("could not load daemonset YAML file; " ++ e)
  | .ok daemonset =>
      if lookupLabel daemonset.labels nodeKey ≠ nodeValue then
        .error ("the Trident daemonset must have the label \"" ++ cfg.appLabelKey ++ ": " ++
          cfg.appLabelValue ++ "\"")
      else if lookupLabel daemonset.templateLabels nodeKey ≠ nodeValue then
        .error ("the Trident daemonset's pod template must have the label \"" ++ cfg.appLabelKey ++
          ": " ++ cfg.appLabelValue ++ "\"")
      else if containerImage daemonset.containers cfg.build.containerTrident = "" then
        .error ("the Trident daemonset must define the " ++ cfg.build.containerTrident ++
          " container")
      else .ok ()

/-- `validateTridentService`: only the label. -/
def validateTridentService (cfg : Config) (env : Env) : Except String Unit :=
  match env.readServiceFromFile cfg.paths.csiServicePath with
  | .error e => .error ("could not load service YAML file; " ++ e)
  | .ok service =>
      if lookupLabel service.labels cfg.appLabelKey ≠ cfg.appLabelValue then
        .error ("the Trident service must have the label \"" ++ cfg.appLabelKey ++ ": " ++
          cfg.appLabelValue ++ "\"")
      else .ok ()

/-- `validateTridentPVC`: the label, then the name, then the namespace. -/
def validateTridentPVC (cfg : Config) (env : Env) : Except String Unit :=
  match env.readPVCFromFile cfg.paths.pvcPath with
  | .error e => .error ("could not load PVC YAML file; " ++ e)
  | .ok pvc =>
      if lookupLabel pvc.labels cfg.appLabelKey ≠ cfg.appLabelValue then
        .error ("the Trident PVC must have the label \"" ++ cfg.appLabelKey ++ ": " ++
          cfg.appLabelValue ++ "\"")
      else if pvc.name ≠ cfg.pvcName then .error ("the Trident PVC must be named " ++ cfg.pvcName)
      else if pvc.namespace_ ≠ cfg.namespace_ then
        .error ("the Trident PVC must specify namespace " ++ cfg.namespace_)
      else .ok ()

/-- The daemonset validator accepts exactly the daemonsets the shared check accepts
for the node label. -/
theorem validateTridentDaemonSet_ok_iff (cfg : Config) (env : Env) :
    validateTridentDaemonSet cfg env = .ok () ↔
      validatePodController "daemonset" (env.readDaemonSetFromFile cfg.paths.csiDaemonSetPath)
        cfg.build.tridentNodeLabelKey cfg.build.tridentNodeLabelValue cfg.build.containerTrident
        = .ok () := by
  unfold validateTridentDaemonSet validatePodController
  cases env.readDaemonSetFromFile cfg.paths.csiDaemonSetPath with
  | error e => simp
  | ok daemonset => simp only; split_ifs <;> simp

/-- A daemonset without the node label is rejected with a message asking for the app
label, whatever labels it carries. -/
theorem validateTridentDaemonSet_label_error (cfg : Config) (env : Env) (daemonset : PodController)
    (hread : env.readDaemonSetFromFile cfg.paths.csiDaemonSetPath = .ok daemonset)
    (hmissing : lookupLabel daemonset.labels cfg.build.tridentNodeLabelKey ≠
      cfg.build.tridentNodeLabelValue) :
    validateTridentDaemonSet cfg env = .error ("the Trident daemonset must have the label \"" ++
      cfg.appLabelKey ++ ": " ++ cfg.appLabelValue ++ "\"") := by
  simp [validateTridentDaemonSet, hread, hmissing]

/-! ## Objects `installTrident` creates from the setup files -/

/-- "Create namespace if it doesn't exist". -/
def createNamespace (cfg : Config) (env : Env) : Run Unit :=
  createObjectFromFileOrYAML cfg env .namespace_ cfg.paths.namespacePath none
    (.namespaceYAML cfg.namespace_) [("namespace", .str cfg.namespace_)]
    ("could not create namespace " ++ cfg.namespace_) "Created namespace."

/-- "Create PVC if necessary". -/
def createPVC (cfg : Config) (env : Env) : Run Unit :=
  createObjectFromFileOrYAML cfg env .pvc cfg.paths.pvcPath (some ("PVC", validateTridentPVC cfg env))
    (.pvcYAML cfg.pvcName cfg.namespace_ cfg.volumeSize cfg.appLabelValue) []
    ("could not create PVC " ++ cfg.pvcName) "Created PVC."

/-- "Create the deployment". -/
def createDeployment (cfg : Config) (env : Env) : Run Unit :=
  createObjectFromFileOrYAML cfg env .deployment cfg.paths.deploymentPath
    (some ("deployment", validateTridentDeployment cfg env))
    (.deploymentYAML cfg.pvcName cfg.tridentImage cfg.etcdImage cfg.appLabelValue cfg.debug) []
    "could not create Trident deployment" "Created Trident deployment."

/-- "Create the service". -/
def createCSIService (cfg : Config) (env : Env) : Run Unit :=
  createObjectFromFileOrYAML cfg env .csiService cfg.paths.csiServicePath
    (some ("service", validateTridentService cfg env)) (.csiServiceYAML cfg.appLabelValue) []
    "could not create Trident service" "Created Trident service."

/-- "Create the statefulset". -/
def createCSIStatefulSet (cfg : Config) (env : Env) : Run Unit :=
  createObjectFromFileOrYAML cfg env .csiStatefulSet cfg.paths.csiStatefulSetPath
    (some ("statefulset", validateTridentStatefulSet cfg env))
    (.csiStatefulSetYAML cfg.pvcName cfg.tridentImage cfg.etcdImage cfg.appLabelValue cfg.debug) []
    "could not create Trident statefulset" "Created Trident statefulset."

/-- "Create the daemonset". -/
def createCSIDaemonSet (cfg : Config) (env : Env) : Run Unit :=
  createObjectFromFileOrYAML cfg env .csiDaemonSet cfg.paths.csiDaemonSetPath
    (some ("daemonset", validateTridentDaemonSet cfg env))
    (.csiDaemonSetYAML cfg.tridentImage cfg.build.tridentNodeLabelValue cfg.debug) []
    "could not create Trident daemonset" "Created Trident daemonset."

/-- The workloads: the deployment, or the CSI service, statefulset and daemonset in
that order. -/
def createWorkloads (cfg : Config) (env : Env) : Run Unit :=
  if cfg.csi then do
    createCSIService cfg env
    createCSIStatefulSet cfg env
    createCSIDaemonSet cfg env
  else createDeployment cfg env

end TridentInstaller
