import TridentInstaller.Quantity
import Mathlib.Data.List.Infix
set_option autoImplicit false

/-!
# The installer's world

The collaborators of `install.go` (the cluster, the UCP service, the storage backend, the
filesystem and the quantity parser) are modelled by the answers they can give (`Env`).  A
run is a list of `Event`s, rendered bodies are kept symbolically (`Manifest`), and the
command's globals are the fields of `Config`.
-/

namespace TridentInstaller

/-! ## Cluster facts -/

/-- A Kubernetes version, as `client.Version()` parses it with `MustParseSemantic`: three
components, a pre-release (`""` for none) and build metadata (`""` for none). -/
structure Version where
  major : Nat
  minor : Nat
  patch : Nat
  preRelease : String
  buildMetadata : String
  deriving DecidableEq, Repr, Inhabited

namespace Version

/-- `strconv.ParseUint(s, 10, 0)`: decimal digits only, below `2 ^ 64`. -/
def parseUint (s : String) : Option Nat :=
  if s.toList ≠ [] ∧ s.toList.all Char.isDigit ∧ Quantity.digitsValue s.toList < 2 ^ 64 then
    some (Quantity.digitsValue s.toList)
  else none

/-- `strings.Split(s, ".")`. -/
def splitDots (s : String) : List String := (s.toList.splitOn '.').map String.mk

/-- Go's `<` on strings.  It compares bytes, and UTF-8 keeps the order of code points, so
it is the lexicographic order of the characters. -/
def charsLt : List Char → List Char → Bool
  | [], [] => false
  | [], _ :: _ => true
  | _ :: _, [] => false
  | c :: cs, d :: ds => c.toNat < d.toNat || (c.toNat = d.toNat && charsLt cs ds)

/-- The pre-release step of `compareInternal`, one dot-separated identifier at a time:
two numbers compare as numbers, anything else as strings; when one list runs out
first, the longer is greater. -/
def comparePreRelease : List String → List String → Ordering
  | [], [] => .eq
  | _ :: _, [] => .gt
  | [], _ :: _ => .lt
  | a :: as, b :: bs =>
      match parseUint a, parseUint b with
      | some m, some n => if n < m then .gt else if m < n then .lt else comparePreRelease as bs
      | _, _ =>
          if charsLt b.toList a.toList then .gt
          else if charsLt a.toList b.toList then .lt
          else comparePreRelease as bs

/-- `compareInternal` of two semantic versions: the components in order, then a version
without a pre-release above one with, then the pre-releases.  Build metadata is not
compared. -/
def compareInternal (v other : Version) : Ordering :=
  match (compare v.major other.major).then
      ((compare v.minor other.minor).then (compare v.patch other.patch)) with
  | .eq =>
      if v.preRelease = "" ∧ other.preRelease ≠ "" then .gt
      else if v.preRelease ≠ "" ∧ other.preRelease = "" then .lt
      else if v.preRelease = other.preRelease then .eq
      else comparePreRelease (splitDots v.preRelease) (splitDots other.preRelease)
  | o => o

/-- `Version.AtLeast`: `compareInternal` is not `-1`. -/
def atLeast (v min : Version) : Bool := v.compareInternal min != .lt

/-- `Version.String()`: the components, then `-` and the pre-release and `+` and the
build metadata when there are any. -/
def text (v : Version) : String :=
  toString v.major ++ "." ++ toString v.minor ++ "." ++ toString v.patch ++
    (if v.preRelease = "" then "" else "-" ++ v.preRelease) ++
    (if v.buildMetadata = "" then "" else "+" ++ v.buildMetadata)

/-- `Version.ShortString()`. -/
def shortString (v : Version) : String := toString v.major ++ "." ++ toString v.minor

/-- `MustParseSemantic("v1.7.0")`, the first version with iSCSI CHAP support (createPV). -/
def chapMin : Version := ⟨1, 7, 0, "", ""⟩

/-- A pre-release of the minimum is below it. -/
example : (Version.mk 1 10 0 "rc.1" "").atLeast ⟨1, 10, 0, "", ""⟩ = false := by decide

/-- Pre-release identifiers compare as numbers when both are numbers. -/
example : (Version.mk 1 10 0 "rc.10" "").atLeast ⟨1, 10, 0, "rc.9", ""⟩ = true := by decide

end Version

/-- `k8s_client.Flavor`: the vendor variant of the cluster. -/
inductive Flavor where
  | kubernetes
  | openShift
  deriving DecidableEq, Repr, Inhabited

/-! ## Log records -/

/-- logrus levels, most severe first. -/
inductive Level where
  | panic
  | fatal
  | error
  | warning
  | info
  | debug
  deriving DecidableEq, Repr, Inhabited

/-- The numeric level logrus compares against the configured one. -/
def Level.rank : Level → Nat
  | .panic => 0
  | .fatal => 1
  | .error => 2
  | .warning => 3
  | .info => 4
  | .debug => 5

/-- A value attached with `WithField`; logrus keeps the Go value and formats it when
the record is written. -/
inductive Value where
  | str (s : String)
  | bool (b : Bool)
  | quantity (q : Quantity)
  | duration (ns : Nat)
  deriving DecidableEq

/-- One log record: level, message and fields, in the order the code attaches them. -/
structure LogRecord where
  level : Level
  msg : String
  fields : List (String × Value)
  deriving DecidableEq

/-! ## Objects and their bodies -/

/-- The objects an installation creates, named by the role they play.  `volume` is the
storage-backend volume that `AddVolume` allocates. -/
inductive Obj where
  | namespace_
  | serviceAccount
  | clusterRole
  | clusterRoleBinding
  | pvc
  | pv
  | chapSecret
  | deployment
  | csiService
  | csiStatefulSet
  | csiDaemonSet
  | volume
  deriving DecidableEq, Repr, Inhabited

/-- The bodies the installer renders: one constructor per `k8s_client.Get*YAML`
function, with that function's arguments. -/
inductive Manifest where
  | namespaceYAML (ns : String)
  | serviceAccountYAML (csi : Bool)
  | clusterRoleYAML (flavor : Flavor) (version : Version) (csi : Bool)
  | clusterRoleBindingYAML (ns : String) (flavor : Flavor) (version : Version) (csi : Bool)
  | pvcYAML (pvcName ns size label : String)
  | deploymentYAML (pvcName tridentImage etcdImage label : String) (debug : Bool)
  | csiServiceYAML (label : String)
  | csiStatefulSetYAML (pvcName tridentImage etcdImage label : String) (debug : Bool)
  | csiDaemonSetYAML (tridentImage nodeLabel : String) (debug : Bool)
  | nfsPVYAML (pvName size pvcName ns serverIP path label : String)
  | chapISCSIPVYAML (pvName size pvcName ns secretName portal iqn : String) (lun : Int)
      (label : String)
  | iscsiPVYAML (pvName size pvcName ns portal iqn : String) (lun : Int) (label : String)
  | chapSecretYAML (name user initiatorSecret targetSecret : String)
  deriving DecidableEq, Repr

/-- The body of an object to create: a rendered manifest (`CreateObjectByYAML`) or a
file the client reads (`CreateObjectByFile`). -/
inductive Body where
  | yaml (m : Manifest)
  | file (path : String)
  deriving DecidableEq, Repr

/-- `storage.VolumeConfig`, as `createPV` fills it. -/
structure VolumeConfig where
  version : String
  name : String
  size : String
  protocol : String
  deriving DecidableEq, Repr

/-- The mutating calls: object creation and deletion, the OpenShift security context
constraint, the UCP role, and the backend's volume allocation. -/
inductive Call where
  | createObject (o : Obj) (body : Body)
  | deleteObjectByYAML (o : Obj) (m : Manifest)
  | addTridentUserToOpenShiftSCC
  | removeTridentUserFromOpenShiftSCC
  | createTridentRole
  | addTridentRoleToServiceAccount (ns : String)
  | removeTridentRoleFromServiceAccount (ns : String)
  | deleteTridentRole
  | addVolume (config : VolumeConfig) (pool : String)
  deriving DecidableEq, Repr

/-- What a run does, in order. -/
inductive Event where
  /-- a mutating call, and the error the collaborator answered (`none` on success) -/
  | call (c : Call) (err : Option String)
  /-- an existence probe that answered, and its answer -/
  | probe (o : Obj) (present : Bool)
  /-- a log record -/
  | log (r : LogRecord)
  /-- `ioutil.WriteFile` of a rendered manifest, and its error -/
  | writeFile (path : String) (m : Manifest) (err : Option String)
  /-- `os.Remove` of a setup file, and its (ignored) error -/
  | removeFile (path : String) (err : Option String)
  deriving DecidableEq

/-! ## What the collaborators hand back -/

/-- A label map; `none` is a nil map.  A lookup of an absent key gives `""`, as a Go
map lookup does. -/
abbrev Labels := Option (List (String × String))

/-- `labels[key]` on a Go map. -/
def lookupLabel (labels : Labels) (key : String) : String :=
  match labels with
  | none => ""
  | some l => (l.lookup key).getD ""

/-- `v1.PersistentVolumeClaim`, the fields the installer reads.  Also what
`ReadPVCFromFile` parses an override file into. -/
structure PersistentVolumeClaim where
  name : String
  namespace_ : String
  labels : Labels
  phase : String
  volumeName : String
  deriving DecidableEq, Repr

/-- `v1.ObjectReference`, a PV's claim reference. -/
structure ObjectReference where
  name : String
  namespace_ : String
  deriving DecidableEq, Repr

/-- `v1.PersistentVolume`, the fields the installer reads; `capacity` is
`Spec.Capacity[v1.ResourceStorage]`. -/
structure PersistentVolume where
  labels : Labels
  phase : String
  claimRef : Option ObjectReference
  capacity : Option Quantity

/-- A container of a pod template. -/
structure Container where
  name : String
  image : String
  deriving DecidableEq, Repr

/-- A deployment, statefulset or daemonset as `Read*FromFile` parses an override file:
its labels, its pod template's labels and its containers. -/
structure PodController where
  labels : Labels
  templateLabels : Labels
  containers : List Container
  deriving DecidableEq, Repr

/-- A service as `ReadServiceFromFile` parses an override file. -/
structure Service where
  labels : Labels
  deriving DecidableEq, Repr

/-- `v1.Pod`, the fields the installer reads. -/
structure Pod where
  name : String
  phase : String
  message : String
  deriving DecidableEq, Repr

/-- `VolumeAccessInfo`: the NFS and iSCSI access details a backend fills in. -/
structure AccessInfo where
  nfsServerIP : String
  nfsPath : String
  iscsiTargetPortal : String
  iscsiTargetIQN : String
  iscsiLunNumber : Int
  iscsiTargetSecret : String
  iscsiUsername : String
  iscsiInitiatorSecret : String
  deriving DecidableEq, Repr

/-- `storage.Volume`, as `AddVolume` returns it. -/
structure Volume where
  name : String
  accessInfo : AccessInfo
  deriving DecidableEq, Repr

/-- `storage.Backend`: its name, driver, protocol and the names of its pools
(`sb.Storage`). -/
structure Backend where
  name : String
  driverName : String
  protocol : String
  storage : List String
  deriving DecidableEq, Repr

/-- What `os.Stat` reports for a path. -/
inductive Stat where
  | exists_
  | notExist (err : String)
  | failed (err : String)
  deriving DecidableEq, Repr

/-- The local filesystem: what `os.Stat` and `ioutil.ReadFile` answer for a path. -/
structure FileSystem where
  stat : String → Stat
  readFile : String → Except String String

/-- `fileExists`, the command package's helper: the path stats without error. -/
def fileExists (fs : FileSystem) (path : String) : Bool :=
  fs.stat path == .exists_

/-- Every answer the collaborators can give a run of the install command, the quantity
parser `resource.ParseQuantity` among them.  Questions asked once per run have one answer;
a readiness poll has an answer per attempt and a back-off schedule, the intervals
`ExponentialBackOff` hands out before `Stop`.  A schedule is a finite list, as the library
gives for a positive `--k8s-timeout`; with a zero timeout it never stops, and the model
covers only the waits that end. -/
structure Env where
  parseQuantity : String → Except String Quantity
  goos : String
  newKubectlClient : Option String
  newUCPClient : Option String
  installerDirectory : Except String String
  currentNamespace : String
  flavor : Flavor
  version : Version
  cli : String
  isTridentInstalled : Except String (Bool × String)
  isCSITridentInstalled : Except String (Bool × String)
  checkNamespaceExists : String → Except String Bool
  checkPVCExists : String → Except String Bool
  getPVC : String → Except String PersistentVolumeClaim
  checkPVExists : String → Except String Bool
  getPV : String → Except String PersistentVolume
  files : FileSystem
  writeFile : String → Option String
  removeFile : String → Option String
  readPVCFromFile : String → Except String PersistentVolumeClaim
  readDeploymentFromFile : String → Except String PodController
  readServiceFromFile : String → Except String Service
  readStatefulSetFromFile : String → Except String PodController
  readDaemonSetFromFile : String → Except String PodController
  newStorageBackendForConfig : String → Except String Backend
  poolChoice : Nat
  addVolume : VolumeConfig → String → Except String Volume
  chapSecretName : Volume → String
  checkSecretExists : String → Except String Bool
  create : Obj → Option String
  delete : Obj → Option String
  addTridentUserToOpenShiftSCC : Option String
  removeTridentUserFromOpenShiftSCC : Option String
  createTridentRole : Except String Bool
  addTridentRoleToServiceAccount : Except String Bool
  removeTridentRoleFromServiceAccount : Except String Bool
  deleteTridentRole : Except String Bool
  checkPVCBound : Nat → Except String Bool
  pvcBackOff : List Nat
  getPodByLabel : Nat → Except String Pod
  podBackOff : List Nat
  exec : String → Nat → String × Option String
  unmarshalVersion : String → Except String String
  restBackOff : List Nat

/-! ## Configuration -/

/-- The constants `install.go` reads from `tridentconfig` and the command package. -/
structure Build where
  orchestratorName : String
  buildImage : String
  buildEtcdImage : String
  buildEtcdVersion : String
  kubernetesCSIVersionMin : Version
  containerTrident : String
  podServer : String
  tridentLabel : String
  tridentLabelKey : String
  tridentLabelValue : String
  tridentCSILabel : String
  tridentCSILabelKey : String
  tridentCSILabelValue : String
  tridentNodeLabelKey : String
  tridentNodeLabelValue : String

/-- The command-line flags of `tridentctl install` (and the root command's `-n` and
`--debug`), before any defaulting.  The timeout is in nanoseconds, as a
`time.Duration`. -/
structure Flags where
  dryRun : Bool
  generateYAML : Bool
  useYAML : Bool
  csi : Bool
  pvName : String
  pvcName : String
  volumeName : String
  volumeSize : String
  tridentImage : String
  etcdImage : String
  k8sTimeout : Nat
  ucpBearerToken : String
  ucpHost : String
  namespace_ : String
  debug : Bool

/-- The setup files, as `prepareYAMLFilePaths` lays them out. -/
structure Paths where
  setupPath : String
  backendConfigFilePath : String
  namespacePath : String
  serviceAccountPath : String
  clusterRolePath : String
  clusterRoleBindingPath : String
  pvcPath : String
  deploymentPath : String
  csiServicePath : String
  csiStatefulSetPath : String
  csiDaemonSetPath : String
  deriving DecidableEq, Repr

/-- The package globals once the command has set them up: the flags, the derived
RBAC mode, namespace, paths and labels. -/
structure Config where
  build : Build
  dryRun : Bool
  useYAML : Bool
  csi : Bool
  pvName : String
  pvcName : String
  volumeName : String
  volumeSize : String
  tridentImage : String
  etcdImage : String
  k8sTimeout : Nat
  useKubernetesRBAC : Bool
  ucpBearerToken : String
  ucpHost : String
  namespace_ : String
  debug : Bool
  paths : Paths
  appLabel : String
  appLabelKey : String
  appLabelValue : String

/-- `strings.Contains`. -/
def contains (s sub : String) : Bool := decide (sub.toList <:+: s.toList)

end TridentInstaller
