import TridentInstaller.Objects
set_option autoImplicit false

/-!
# The bootstrap volume (`loadStorageDriver`, `createPV`, `createCHAPSecret`)

The installer starts the storage driver from `setup/backend.json`, allocates a volume on
one of the backend's pools, and writes a PV for it: NFS, plain iSCSI, or iSCSI with a
CHAP secret.
-/

namespace TridentInstaller

open Run

/-- `if _, err = os.Stat(path); os.IsNotExist(err) { return fmt.Errorf(...) }`: only a
missing path stops; another stat error is overwritten by the next step. -/
def requireExists (st : Stat) (failure : String) : Run Unit :=
  match st with
  | .notExist e => fail (failure ++ "; " ++ e)
  | _ => Run.pure ()

/-- `loadStorageDriver`: the setup directory and the backend config file must exist, and
the driver must start from the file's contents. -/
def loadStorageDriver (cfg : Config) (env : Env) : Run Backend := do
  requireExists (env.files.stat cfg.paths.setupPath) "setup directory does not exist"
  requireExists (env.files.stat cfg.paths.backendConfigFilePath)
    "storage backend config file does not exist"
  log .info "Starting storage driver." [("backend", .str cfg.paths.backendConfigFilePath)]
  let configFile ← expect (env.files.readFile cfg.paths.backendConfigFilePath)
    fun e => "could not read the storage backend config file; " ++ e
  let backend ← expect (env.newStorageBackendForConfig configFile)
    fun e => "could not start the storage backend driver; " ++ e
  log .info "Storage driver loaded." [("driver", .str backend.driverName)]
  Run.pure backend

/-- The branch of `createCHAPSecret` on the probe's answer: create the secret from the
volume's CHAP credentials unless it exists. -/
def createSecretUnlessExists (env : Env) (volume : Volume) (secretName : String)
    (secretExists : Bool) : Run Unit :=
  if secretExists then
    log .debug "iSCSI CHAP secret already exists." [("secret", .str secretName)]
  else do
    log .debug "iSCSI CHAP secret does not exist." [("secret", .str secretName)]
    let info := volume.accessInfo
    let err ← invoke (.createObject .chapSecret (.yaml (.chapSecretYAML secretName
      info.iscsiUsername info.iscsiInitiatorSecret info.iscsiTargetSecret)))
      (env.create .chapSecret)
    check err fun e => "could not create CHAP secret; " ++ e
    log .info "Created iSCSI CHAP secret." [("secret", .str secretName)]

/-- `createCHAPSecret`: the secret is named after the volume; it is created unless one of
that name exists already.  Returns the name. -/
def createCHAPSecret (env : Env) (volume : Volume) : Run String := do
  let secretName := env.chapSecretName volume
  log .debug "Using iSCSI CHAP secret." [("secret", .str secretName)]
  let secretExists ← expect (env.checkSecretExists secretName)
    fun e => "could not check for existing iSCSI CHAP secret; " ++ e
  probe .chapSecret secretExists
  createSecretUnlessExists env volume secretName secretExists
  Run.pure secretName

/-- The PV manifest for an allocated volume, chosen by its access fields: NFS server set,
else iSCSI portal set (with CHAP when a target secret came back), else an error. -/
def pvManifest (cfg : Config) (env : Env) (volume : Volume) : Run Manifest :=
  let info := volume.accessInfo
  if info.nfsServerIP ≠ "" then
    Run.pure (.nfsPVYAML cfg.pvName cfg.volumeSize cfg.pvcName cfg.namespace_ info.nfsServerIP
      info.nfsPath cfg.appLabelValue)
  else if info.iscsiTargetPortal ≠ "" then
    if info.iscsiTargetSecret ≠ "" then
      if !env.version.atLeast Version.chapMin then fail "iSCSI CHAP requires Kubernetes 1.7.0 or later"
      else do
        let secretName ← createCHAPSecret env volume
        Run.pure (.chapISCSIPVYAML cfg.pvName cfg.volumeSize cfg.pvcName cfg.namespace_ secretName
          info.iscsiTargetPortal info.iscsiTargetIQN info.iscsiLunNumber cfg.appLabelValue)
    else
      Run.pure (.iscsiPVYAML cfg.pvName cfg.volumeSize cfg.pvcName cfg.namespace_
        info.iscsiTargetPortal info.iscsiTargetIQN info.iscsiLunNumber cfg.appLabelValue)
  else fail "unrecognized volume type"

/-- The pool `createPV` takes: whichever one Go's randomised map iteration yields first. -/
def choosePool (env : Env) (sb : Backend) : String :=
  sb.storage.getD (env.poolChoice % sb.storage.length) ""

/-- The volume config `createPV` allocates from. -/
def volumeConfig (cfg : Config) (sb : Backend) : VolumeConfig :=
  ⟨"1", cfg.volumeName, cfg.volumeSize, sb.protocol⟩

/-- `AddVolume` on the backend, recorded as a call; its error is returned wrapped. -/
def addVolume (env : Env) (config : VolumeConfig) (pool : String) : Run Volume :=
  match env.addVolume config pool with
  | .ok v => do
      let _ ← invoke (.addVolume config pool) none
      Run.pure v
  | .error e => do
      let _ ← invoke (.addVolume config pool) (some e)
      fail ("could not create a volume on the storage backend; " ++ e)

/-- `createPV`: a backend without pools is an error; otherwise allocate the volume, build
its PV manifest and create the PV. -/
def createPV (cfg : Config) (env : Env) (sb : Backend) : Run Unit :=
  if sb.storage = [] then fail ("backend " ++ sb.name ++ " has no storage pools")
  else do
    let volume ← addVolume env (volumeConfig cfg sb) (choosePool env sb)
    let pvYAML ← pvManifest cfg env volume
    let err ← invoke (.createObject .pv (.yaml pvYAML)) (env.create .pv)
    check err fun e => "could not create PV " ++ cfg.pvName ++ "; " ++ e

end TridentInstaller
