import TridentInstaller.Names
import TridentInstaller.Volume
import TridentInstaller.Overrides
import TridentInstaller.Readiness
set_option autoImplicit false

/-!
# `installTrident` and the install command

`installTrident` runs the pre-checks (`preChecks`), which change nothing, and then, unless
it is a dry run, the mutation phase (`install`).  `installCommand` wraps it as cobra
does: discovery and argument checks, then the generate step or the install.
-/

namespace TridentInstaller

open Run

/-! ## Pre-checks -/

/-- What the pre-check phase hands to the mutation phase.  `pvExists` is carried as
the absence of a backend: the driver is loaded exactly when the PV must be created. -/
structure Probed where
  namespaceExists : Bool
  pvcExists : Bool
  storageBackend : Option Backend

/-- "Ensure Trident isn't already installed": in CSI mode the Kubernetes version must
reach `KubernetesCSIVersionMin` and no CSI Trident may exist; otherwise no Trident
deployment may exist.  Only the non-CSI path dumps the RBAC fields. -/
def checkAlreadyInstalled (cfg : Config) (env : Env) : Run Unit :=
  if cfg.csi then do
    let minCSIVersion := cfg.build.kubernetesCSIVersionMin
    stopIf (!env.version.atLeast minCSIVersion)
      ("CSI Trident requires Kubernetes " ++ minCSIVersion.shortString ++ " or later")
    let (installed, ns) ← expect env.isCSITridentInstalled
      fun e => "could not check if Trident statefulset exists; " ++ e
    probe .csiStatefulSet installed
    stopIf installed ("CSI Trident is already installed in namespace " ++ ns)
    log .warning ("CSI Trident for Kubernetes is a technology preview " ++
      "and should not be installed in production environments!") []
  else do
    log .debug "Dumping RBAC fields." [("useKubernetesRBAC", .bool cfg.useKubernetesRBAC),
      ("ucpBearerToken", .str cfg.ucpBearerToken), ("ucpHost", .str cfg.ucpHost)]
    let (installed, ns) ← expect env.isTridentInstalled
      fun e => "could not check if Trident deployment exists; " ++ e
    probe .deployment installed
    stopIf installed ("Trident is already installed in namespace " ++ ns)

/-- "Check if the required namespace exists". -/
def checkNamespace (cfg : Config) (env : Env) : Run Bool := do
  let namespaceExists ← expect (env.checkNamespaceExists cfg.namespace_)
    fun e => "could not check if namespace " ++ cfg.namespace_ ++ " exists; " ++ e
  probe .namespace_ namespaceExists
  log .debug (if namespaceExists then "Namespace exists." else "Namespace does not exist.")
    [("namespace", .str cfg.namespace_)]
  Run.pure namespaceExists

/-- The state checks on an existing PVC: not Lost, not Bound elsewhere, labelled. -/
def checkExistingPVC (cfg : Config) (env : Env) : Run Unit := do
  let pvc ← expect (env.getPVC cfg.pvcName)
    fun e => "could not retrieve PVC " ++ cfg.pvcName ++ "; " ++ e
  stopIf (pvc.phase = "Lost") ("PVC " ++ cfg.pvcName ++ " phase is Lost; please delete it and try again")
  stopIf (pvc.phase = "Bound" && pvc.volumeName ≠ cfg.pvName) ("PVC " ++ cfg.pvcName ++
    " is Bound, but not to PV " ++ cfg.pvName ++ "; please specify a different PV and/or PVC")
  stopIf (pvc.labels.isNone || lookupLabel pvc.labels cfg.appLabelKey ≠ cfg.appLabelValue)
    ("PVC " ++ cfg.pvcName ++ " does not have " ++ cfg.appLabel ++
      " label; please add label or delete PVC and try again")
  log .debug "PVC already exists." [("pvc", .str cfg.pvcName), ("namespace", .str pvc.namespace_),
    ("phase", .str pvc.phase)]

/-- "Check for PVC". -/
def checkPVC (cfg : Config) (env : Env) : Run Bool := do
  let pvcExists ← expect (env.checkPVCExists cfg.pvcName)
    fun e => "could not establish the presence of PVC " ++ cfg.pvcName ++ "; " ++ e
  probe .pvc pvcExists
  (if pvcExists then checkExistingPVC cfg env
    else log .debug "PVC does not exist." [("pvc", .str cfg.pvcName)])
  Run.pure pvcExists

/-- A Bound PV's claim reference must name our PVC in our namespace. -/
def checkClaimRef (cfg : Config) (pv : PersistentVolume) : Run Unit :=
  match pv.claimRef with
  | some ref =>
      onlyIf (pv.phase = "Bound") do
        stopIf (ref.name ≠ cfg.pvcName) ("PV " ++ cfg.pvName ++ " is Bound, but not to PVC " ++
          cfg.pvcName ++ "; please delete PV and try again")
        stopIf (ref.namespace_ ≠ cfg.namespace_) ("PV " ++ cfg.pvName ++
          " is Bound to a PVC in namespace " ++ ref.namespace_ ++ "; please delete PV and try again")
  | none => Run.pure ()

/-- "Ensure PV size matches the request": a mismatch is only a warning. -/
def warnPVSize (cfg : Config) (requested : Quantity) (pv : PersistentVolume) : Run Unit :=
  match pv.capacity with
  | none => log .warning "Could not determine size of existing PV." [("pv", .str cfg.pvName)]
  | some actual =>
      onlyIf (requested.cmp actual ≠ .eq) (log .warning "Existing PV size does not match request."
        [("existing", .quantity actual), ("request", .quantity requested), ("pv", .str cfg.pvName)])

/-- The state checks on an existing PV: not Released or Failed, bound only to our PVC,
labelled; its size is compared with the request. -/
def checkExistingPV (cfg : Config) (env : Env) (requested : Quantity) : Run Unit := do
  let pv ← expect (env.getPV cfg.pvName) fun e => "could not retrieve PV " ++ cfg.pvName ++ "; " ++ e
  stopIf (pv.phase = "Released")
    ("PV " ++ cfg.pvName ++ " phase is Released; please delete it and try again")
  stopIf (pv.phase = "Failed") ("PV " ++ cfg.pvName ++ " phase is Failed; please delete it and try again")
  checkClaimRef cfg pv
  stopIf (pv.labels.isNone || lookupLabel pv.labels cfg.appLabelKey ≠ cfg.appLabelValue)
    ("PV " ++ cfg.pvName ++ " does not have " ++ cfg.appLabel ++
      " label; please add label or delete PV and try again")
  warnPVSize cfg requested pv
  log .debug "PV already exists." [("pv", .str cfg.pvName), ("phase", .str pv.phase)]

/-- "Check for PV". -/
def checkPV (cfg : Config) (env : Env) (requested : Quantity) : Run Bool := do
  let pvExists ← expect (env.checkPVExists cfg.pvName)
    fun e => "could not establish the presence of PV " ++ cfg.pvName ++ "; " ++ e
  probe .pv pvExists
  (if pvExists then checkExistingPV cfg env requested
    else log .debug "PV does not exist." [("pv", .str cfg.pvName)])
  Run.pure pvExists

/-- Load the driver when the PV will have to be created, "to detect any problems before
starting the installation steps". -/
def loadStorageDriverIfNeeded (cfg : Config) (env : Env) (pvExists : Bool) :
    Run (Option Backend) :=
  if pvExists then do
    log .debug "PV exists, skipping storage driver check." []
    Run.pure none
  else do
    let backend ← loadStorageDriver cfg env
    Run.pure (some backend)

/-- The pre-check phase of `installTrident`, up to the dry-run stop.  It makes no
mutating call. -/
def preChecks (cfg : Config) (env : Env) : Run Probed := do
  let requested ← expect (env.parseQuantity cfg.volumeSize)
    fun e => "volume-size '" ++ cfg.volumeSize ++ "' is invalid; " ++ e
  log .debug "Parsed requested volume size." [("quantity", .quantity requested)]
  checkAlreadyInstalled cfg env
  let namespaceExists ← checkNamespace cfg env
  let pvcExists ← checkPVC cfg env
  let pvExists ← checkPV cfg env requested
  let storageBackend ← loadStorageDriverIfNeeded cfg env pvExists
  Run.pure ⟨namespaceExists, pvcExists, storageBackend⟩

/-! ## The mutation phase -/

/-- "Create PV if necessary", with `createPV`'s error wrapped. -/
def createPVIfNeeded (cfg : Config) (env : Env) : Option Backend → Run Unit
  | none => Run.pure ()
  | some sb => do
      wrap (fun e => "could not create PV " ++ cfg.pvName ++ "; " ++ e) (createPV cfg env sb)
      log .info "Created PV." [("pv", .str cfg.pvName)]

/-- The mutation phase of `installTrident`. -/
def install (cfg : Config) (env : Env) (probed : Probed) : Run Unit := do
  log .info "Starting Trident installation." [("namespace", .str cfg.namespace_)]
  onlyIf (!probed.namespaceExists) (createNamespace cfg env)
  let anyCleanupErrors ← removeRBACObjects cfg env .debug
  stopIf anyCleanupErrors ("could not remove one or more previous Trident artifacts; " ++
    "please delete them manually and try again")
  createRBACObjects cfg env
  onlyIf (!probed.pvcExists) (createPVC cfg env)
  createPVIfNeeded cfg env probed.storageBackend
  waitForPVCBound cfg env
  createWorkloads cfg env
  let tridentPod ← waitForTridentPod cfg env
  wrap (fun e => e ++ "; use 'tridentctl logs' to learn more")
    (waitForRESTInterface cfg env tridentPod.name)
  log .info "Trident installation succeeded." []

/-- `installTrident`: the pre-checks, then the dry-run stop or the mutation phase. -/
def installTrident (cfg : Config) (env : Env) : Run Unit := do
  let probed ← preChecks cfg env
  if cfg.dryRun then log .info "Dry run completed, no problems found." []
  else install cfg env probed

/-! ## Setting up the globals -/

/-- `path.Join` of a clean directory and a file name. -/
def pathJoin (dir name : String) : String :=
  if dir.endsWith "/" then dir ++ name else dir ++ "/" ++ name

/-- `prepareYAMLFilePaths`, from the installer's directory. -/
def prepareYAMLFilePaths (installerDirectoryPath : String) : Paths :=
  let setupPath := pathJoin installerDirectoryPath "setup"
  { setupPath := setupPath
    backendConfigFilePath := pathJoin setupPath "backend.json"
    namespacePath := pathJoin setupPath "trident-namespace.yaml"
    serviceAccountPath := pathJoin setupPath "trident-serviceaccount.yaml"
    clusterRolePath := pathJoin setupPath "trident-clusterrole.yaml"
    clusterRoleBindingPath := pathJoin setupPath "trident-clusterrolebinding.yaml"
    pvcPath := pathJoin setupPath "trident-pvc.yaml"
    deploymentPath := pathJoin setupPath "trident-deployment.yaml"
    csiServicePath := pathJoin setupPath "trident-service.yaml"
    csiStatefulSetPath := pathJoin setupPath "trident-statefulset.yaml"
    csiDaemonSetPath := pathJoin setupPath "trident-daemonset.yaml" }

/-- "Infer installation namespace if not specified". -/
def inferNamespace (b : Build) (flags : Flags) (env : Env) : Run String :=
  if flags.namespace_ = "" then do
    onlyIf (env.currentNamespace ≠ b.orchestratorName)
      (log .warning "For maximum security, we recommend running Trident in its own namespace."
        [("example", .str ("./tridentctl install -n " ++ b.orchestratorName))])
    Run.pure env.currentNamespace
  else Run.pure flags.namespace_

/-- `discoverInstallationEnvironment`: default the images, require Linux, build the
clients (UCP only when a token or host is given), lay out the setup paths and settle
the namespace.  It makes no change to the environment. -/
def discoverInstallationEnvironment (b : Build) (flags : Flags) (env : Env) : Run Config := do
  let tridentImage := if flags.tridentImage = "" then b.buildImage else flags.tridentImage
  let etcdImage := if flags.etcdImage = "" then b.buildEtcdImage else flags.etcdImage
  onlyIf (flags.etcdImage ≠ "" && !contains flags.etcdImage b.buildEtcdVersion)
    (log .warning ("Trident was qualified with etcd " ++ b.buildEtcdVersion ++
      ". You appear to be using a different version.") [])
  stopIf (env.goos ≠ "linux") "the Trident installer only runs on Linux"
  check env.newKubectlClient fun e => "could not initialize Kubernetes client; " ++ e
  let useKubernetesRBAC := flags.ucpBearerToken = "" && flags.ucpHost = ""
  onlyIf (!useKubernetesRBAC) (check env.newUCPClient id)
  let installerDirectoryPath ← expect env.installerDirectory
    fun e => "could not determine installer working directory; " ++ e
  let ns ← inferNamespace b flags env
  log .debug "Validated Trident installation environment."
    [("installationNamespace", .str ns), ("kubernetesVersion", .str env.version.text)]
  Run.pure
    { build := b, dryRun := flags.dryRun, useYAML := flags.useYAML, csi := flags.csi,
      pvName := flags.pvName, pvcName := flags.pvcName, volumeName := flags.volumeName,
      volumeSize := flags.volumeSize, tridentImage := tridentImage, etcdImage := etcdImage,
      k8sTimeout := flags.k8sTimeout, useKubernetesRBAC := useKubernetesRBAC,
      ucpBearerToken := flags.ucpBearerToken, ucpHost := flags.ucpHost, namespace_ := ns,
      debug := flags.debug, paths := prepareYAMLFilePaths installerDirectoryPath,
      appLabel := "", appLabelKey := "", appLabelValue := "" }

/-- `processInstallationArguments`: default the PVC, PV and volume names (with a `-csi`
suffix in CSI mode) and pick the topology's label. -/
def processInstallationArguments (cfg : Config) : Config :=
  let b := cfg.build
  let defaultName := if cfg.csi then b.orchestratorName ++ "-csi" else b.orchestratorName
  { cfg with
    pvcName := if cfg.pvcName = "" then defaultName else cfg.pvcName
    pvName := if cfg.pvName = "" then defaultName else cfg.pvName
    volumeName := if cfg.volumeName = "" then defaultName else cfg.volumeName
    appLabel := if cfg.csi then b.tridentCSILabel else b.tridentLabel
    appLabelKey := if cfg.csi then b.tridentCSILabelKey else b.tridentLabelKey
    appLabelValue := if cfg.csi then b.tridentCSILabelValue else b.tridentLabelValue }

/-! ## Generating the setup files -/

/-- `setupYAMLPaths`. -/
def setupYAMLPaths (p : Paths) : List String :=
  [p.namespacePath, p.serviceAccountPath, p.clusterRolePath, p.clusterRoleBindingPath, p.pvcPath,
    p.deploymentPath, p.csiServicePath, p.csiStatefulSetPath, p.csiDaemonSetPath]

/-- `cleanYAMLFiles`: remove every setup file, ignoring errors. -/
def cleanYAMLFiles (cfg : Config) (env : Env) : Run Unit :=
  ⟨(setupYAMLPaths cfg.paths).map fun p => .removeFile p (env.removeFile p), .ok ()⟩

/-- `writeFile` of a rendered manifest, with the caller's error wrapping. -/
def writeManifest (env : Env) (path : String) (m : Manifest) (what : String) : Run Unit := do
  emit (.writeFile path m (env.writeFile path))
  check (env.writeFile path) fun e => "could not write " ++ what ++ " YAML file; " ++ e

/-- `prepareYAMLFiles`: the non-CSI setup files. -/
def prepareYAMLFiles (cfg : Config) (env : Env) : Run Unit := do
  cleanYAMLFiles cfg env
  writeManifest env cfg.paths.namespacePath (.namespaceYAML cfg.namespace_) "namespace"
  writeManifest env cfg.paths.serviceAccountPath (.serviceAccountYAML false) "service account"
  writeManifest env cfg.paths.clusterRolePath (.clusterRoleYAML env.flavor env.version false)
    "cluster role"
  writeManifest env cfg.paths.clusterRoleBindingPath
    (.clusterRoleBindingYAML cfg.namespace_ env.flavor env.version false) "cluster role binding"
  writeManifest env cfg.paths.pvcPath
    (.pvcYAML cfg.pvcName cfg.namespace_ cfg.volumeSize cfg.appLabelValue) "PVC"
  writeManifest env cfg.paths.deploymentPath
    (.deploymentYAML cfg.pvcName cfg.tridentImage cfg.etcdImage cfg.appLabelValue cfg.debug)
    "deployment"

/-- `prepareCSIYAMLFiles`: the CSI setup files. -/
def prepareCSIYAMLFiles (cfg : Config) (env : Env) : Run Unit := do
  cleanYAMLFiles cfg env
  writeManifest env cfg.paths.namespacePath (.namespaceYAML cfg.namespace_) "namespace"
  writeManifest env cfg.paths.serviceAccountPath (.serviceAccountYAML true) "service account"
  writeManifest env cfg.paths.clusterRolePath (.clusterRoleYAML env.flavor env.version true)
    "cluster role"
  writeManifest env cfg.paths.clusterRoleBindingPath
    (.clusterRoleBindingYAML cfg.namespace_ env.flavor env.version true) "cluster role binding"
  writeManifest env cfg.paths.pvcPath
    (.pvcYAML cfg.pvcName cfg.namespace_ cfg.volumeSize cfg.appLabelValue) "PVC"
  writeManifest env cfg.paths.csiServicePath (.csiServiceYAML cfg.appLabelValue) "service"
  writeManifest env cfg.paths.csiStatefulSetPath
    (.csiStatefulSetYAML cfg.pvcName cfg.tridentImage cfg.etcdImage cfg.appLabelValue cfg.debug)
    "statefulset"
  writeManifest env cfg.paths.csiDaemonSetPath
    (.csiDaemonSetYAML cfg.tridentImage cfg.build.tridentNodeLabelValue cfg.debug) "daemonset"

/-- The `--generate-custom-yaml` branch of `Run`: the CSI setup files or the others. -/
def generateYAMLFiles (cfg : Config) (env : Env) : Run Unit :=
  if cfg.csi then prepareCSIYAMLFiles cfg env else prepareYAMLFiles cfg env

/-! ## The command -/

/-- `log.Fatalf`: a fatal record, and the process ends with that error. -/
def fatalOnError {α : Type} (msg : String → String) (x : Run α) : Run α :=
  match x.result with
  | .ok a => ⟨x.events, .ok a⟩
  | .error e => ⟨x.events ++ [.log ⟨.fatal, msg e, []⟩], .error (msg e)⟩

/-- `tridentctl install`: `PersistentPreRun` (discover, default, validate), then `Run`
(generate the setup files, or install). -/
def installCommand (b : Build) (flags : Flags) (env : Env) : Run Unit := do
  let discovered ← fatalOnError (fun e => "Install pre-checks failed; " ++ e)
    (discoverInstallationEnvironment b flags env)
  let cfg := processInstallationArguments discovered
  fatalOnError (fun e => "Invalid arguments; " ++ e)
    (ofExcept (validateInstallationArguments cfg.namespace_ cfg.pvcName cfg.pvName))
  if flags.generateYAML then do
    fatalOnError (fun e => "YAML generation failed; " ++ e) (generateYAMLFiles cfg env)
    log .info "Wrote installation YAML files." [("setupPath", .str cfg.paths.setupPath)]
  else
    fatalOnError (fun e => "Install failed; " ++ e ++
      ".  Resolve the issue; use 'tridentctl uninstall' to clean up; and try again.")
      (installTrident cfg env)

end TridentInstaller
