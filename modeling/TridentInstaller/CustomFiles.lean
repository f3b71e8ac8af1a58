import TridentInstaller.Generate
import TridentInstaller.Ordering
import TridentInstaller.Command
set_option autoImplicit false

/-!
# What a run creates its objects from

An object is created from its setup file only once the file passed its validator, and
then it is what the validator asks for.  Every rendered manifest names the configured
namespace, PVC, size and app label, which are the command's flags.  The proofs are the
invariant `AllCalls` of a run's calls.
-/

namespace TridentInstaller

open Run

/-! ## Properties of every call of a run -/

/-- Every call `x` makes satisfies `P`. -/
def AllCalls {α : Type} (P : Call → Prop) (x : Run α) : Prop :=
  ∀ call ∈ callsOf x.events, P call.1

section AllCalls

variable {α β : Type} {P : Call → Prop}

theorem NoCalls.allCalls {x : Run α} (h : NoCalls x) : AllCalls P x := fun _ hc =>
  absurd (h ▸ hc) (List.not_mem_nil _)

theorem AllCalls.bind_of_ok {x : Run α} {f : α → Run β} (hx : AllCalls P x)
    (hf : ∀ a, x.result = .ok a → AllCalls P (f a)) : AllCalls P (x >>= f) := fun call hc =>
  (mem_callsOf_bind hc).elim (hx call) fun ⟨a, ha, h⟩ => hf a ha call h

theorem AllCalls.bind {x : Run α} {f : α → Run β} (hx : AllCalls P x)
    (hf : ∀ a, AllCalls P (f a)) : AllCalls P (x >>= f) :=
  hx.bind_of_ok fun a _ => hf a

theorem AllCalls.ite {c : Prop} [Decidable c] {x y : Run α} (hx : AllCalls P x)
    (hy : AllCalls P y) : AllCalls P (if c then x else y) := by
  split <;> assumption

theorem allCalls_onlyIf (c : Bool) {step : Run Unit} (h : AllCalls P step) :
    AllCalls P (onlyIf c step) :=
  AllCalls.ite h (noCalls_pure ()).allCalls

theorem allCalls_invoke {c : Call} (err : Option String) (hc : P c) : AllCalls P (invoke c err) :=
  fun _ h => List.mem_singleton.mp h ▸ hc

theorem AllCalls.wrap (f : String → String) {x : Run α} (h : AllCalls P x) :
    AllCalls P (wrap f x) :=
  h

/-- A run that follows a plan makes only calls whose steps are in the plan. -/
theorem Follows.allCalls {x : Run α} {p : List Step} (h : Follows x p)
    (hP : ∀ c, c.step ∈ p → P c) : AllCalls P x := fun call hc =>
  hP call.1 (h.withinPlan.subset (List.mem_map.mpr ⟨call, hc, rfl⟩))

end AllCalls

/-! ## The files the create blocks read -/

/-- The setup file each create block of `install.go` reads with `--use-custom-yaml`. -/
def overrideFile (paths : Paths) : Obj → Option String
  | .namespace_ => some paths.namespacePath
  | .serviceAccount => some paths.serviceAccountPath
  | .clusterRole => some paths.clusterRolePath
  | .clusterRoleBinding => some paths.clusterRoleBindingPath
  | .pvc => some paths.pvcPath
  | .deployment => some paths.deploymentPath
  | .csiService => some paths.csiServicePath
  | .csiStatefulSet => some paths.csiStatefulSetPath
  | .csiDaemonSet => some paths.csiDaemonSetPath
  | .pv | .chapSecret | .volume => none

/-- The validator each create block runs on its setup file, for the objects that have
one. -/
def overrideValidator (cfg : Config) (env : Env) : Obj → Option (Except String Unit)
  | .pvc => some (validateTridentPVC cfg env)
  | .deployment => some (validateTridentDeployment cfg env)
  | .csiService => some (validateTridentService cfg env)
  | .csiStatefulSet => some (validateTridentStatefulSet cfg env)
  | .csiDaemonSet => some (validateTridentDaemonSet cfg env)
  | _ => none

/-- A create from a file reads, with `--use-custom-yaml`, the object's own setup file,
which exists and which the object's validator, if any, accepted.  Other calls are
unconstrained. -/
def CheckedFileCreate (cfg : Config) (env : Env) : Call → Prop
  | .createObject o (.file path) =>
      cfg.useYAML = true ∧ fileExists env.files path = true ∧
        overrideFile cfg.paths o = some path ∧ ∀ r, overrideValidator cfg env o = some r → r = .ok ()
  | _ => True

section Checked

variable {cfg : Config} {env : Env}

/-- Resolving through files that all hold a manifest leaves no create from a file. -/
theorem checkedFileCreate_resolve (m : Manifest) (c : Call) :
    CheckedFileCreate cfg env (c.resolve fun _ => some m) := by
  cases c with
  | createObject o body => cases body <;> trivial
  | _ => trivial

/-- A run that every resolution of files leaves unchanged makes no create from a file. -/
theorem allCalls_of_sameCalls {α : Type} {x : Run α} (h : ∀ fs, SameCalls fs x x) :
    AllCalls (CheckedFileCreate cfg env) x := by
  intro call hc
  rw [← (h fun _ => some (.namespaceYAML "")).1] at hc
  obtain ⟨call', -, rfl⟩ := List.mem_map.mp hc
  exact checkedFileCreate_resolve _ _

/-- The create block makes at most one call: the create of its object from the body it
chose, past its validator. -/
theorem allCalls_createObjectFromFileOrYAML_of {P : Call → Prop} {o : Obj} {path : String}
    {validation : Option (String × Except String Unit)} (m : Manifest)
    (renderedFields : List (String × Value)) (failure created : String)
    (h : ¬ validationFails cfg env path validation → P (.createObject o (createdBody cfg env path m))) :
    AllCalls P (createObjectFromFileOrYAML cfg env o path validation m renderedFields failure created) := by
  by_cases hfails : validationFails cfg env path validation
  · exact NoCalls.allCalls (by
      simp only [NoCalls, (createObjectFromFileOrYAML_of_validationFails cfg env o path validation m
        renderedFields failure created hfails).1]; rfl)
  rw [createObjectFromFileOrYAML_of_not_validationFails cfg env o path validation m renderedFields
    failure created hfails]
  cases env.create o <;> intro call hc <;> simp [callsOf, Event.asCall] at hc <;>
    exact hc ▸ h hfails

/-- The create block reads only the file it is given, and only past the validator it is
given; at a site that passes the object's own file and validator, its create is
checked. -/
theorem allCalls_createObjectFromFileOrYAML {o : Obj} {path : String}
    {validation : Option (String × Except String Unit)} (m : Manifest)
    (renderedFields : List (String × Value)) (failure created : String)
    (hpath : overrideFile cfg.paths o = some path)
    (hval : validation.map Prod.snd = overrideValidator cfg env o) :
    AllCalls (CheckedFileCreate cfg env)
      (createObjectFromFileOrYAML cfg env o path validation m renderedFields failure created) :=
  allCalls_createObjectFromFileOrYAML_of m renderedFields failure created fun hfails => by
    unfold createdBody
    split
    · next hfile =>
      refine ⟨(Bool.and_eq_true _ _).mp hfile |>.1, (Bool.and_eq_true _ _).mp hfile |>.2, hpath,
        fun r hr => ?_⟩
      obtain ⟨⟨what, r⟩, hv, rfl⟩ := Option.map_eq_some'.mp (hval.trans hr)
      cases r with
      | error e => exact absurd ⟨hfile, what, e, hv⟩ hfails
      | ok u => rfl
    · trivial

end Checked

/-! ## Every run -/

section Run

variable (cfg : Config) (env : Env)

theorem allCalls_createRBACObjects :
    AllCalls (CheckedFileCreate cfg env) (createRBACObjects cfg env) := by
  unfold createRBACObjects
  exact (allCalls_createObjectFromFileOrYAML _ _ _ _ (by rfl) (by rfl)).bind fun _ => .ite
    ((allCalls_createObjectFromFileOrYAML _ _ _ _ (by rfl) (by rfl)).bind fun _ =>
      (allCalls_createObjectFromFileOrYAML _ _ _ _ (by rfl) (by rfl)).bind fun _ =>
        .ite ((allCalls_invoke _ trivial).bind fun _ =>
          ((noCalls_check ..).bind fun _ => noCalls_log ..).allCalls) (noCalls_pure _).allCalls)
    (allCalls_of_sameCalls fun _ =>
      (sameCalls_ucpCreateStep _ _ _ _ _ rfl).bind fun _ => sameCalls_ucpCreateStep _ _ _ _ _ rfl)

theorem allCalls_createWorkloads :
    AllCalls (CheckedFileCreate cfg env) (createWorkloads cfg env) := by
  unfold createWorkloads createCSIService createCSIStatefulSet createCSIDaemonSet createDeployment
  exact .ite ((allCalls_createObjectFromFileOrYAML _ _ _ _ (by rfl) (by rfl)).bind fun _ =>
      (allCalls_createObjectFromFileOrYAML _ _ _ _ (by rfl) (by rfl)).bind fun _ =>
        allCalls_createObjectFromFileOrYAML _ _ _ _ (by rfl) (by rfl))
    (allCalls_createObjectFromFileOrYAML _ _ _ _ (by rfl) (by rfl))

theorem allCalls_install (p : Probed) : AllCalls (CheckedFileCreate cfg env) (install cfg env p) := by
  unfold install createNamespace createPVC
  exact (noCalls_log ..).allCalls.bind fun _ =>
    (allCalls_onlyIf _ (allCalls_createObjectFromFileOrYAML _ _ _ _ (by rfl) (by rfl))).bind fun _ =>
    (allCalls_of_sameCalls fun _ => sameCalls_removeRBACObjects cfg env _).bind fun _ =>
    (noCalls_stopIf ..).allCalls.bind fun _ =>
    (allCalls_createRBACObjects cfg env).bind fun _ =>
    (allCalls_onlyIf _ (allCalls_createObjectFromFileOrYAML _ _ _ _ (by rfl) (by rfl))).bind fun _ =>
    (allCalls_of_sameCalls fun _ => sameCalls_createPVIfNeeded cfg env _).bind fun _ =>
    (noCalls_waitForPVCBound cfg env).allCalls.bind fun _ =>
    (allCalls_createWorkloads cfg env).bind fun _ =>
    (noCalls_waitForTridentPod cfg env).allCalls.bind fun pod =>
    (noCalls_wrap _ (noCalls_waitForRESTInterface cfg env pod.name)).allCalls.bind fun _ =>
    (noCalls_log ..).allCalls

theorem allCalls_installTrident :
    AllCalls (CheckedFileCreate cfg env) (installTrident cfg env) :=
  (noCalls_preChecks cfg env).allCalls.bind fun p =>
    AllCalls.ite (noCalls_log ..).allCalls (allCalls_install cfg env p)

end Run

/-- Custom files are read only as configured and only once checked.  In every run of
`installTrident`, whatever the collaborators answer, a create of an object from a file
happens only with `--use-custom-yaml`, only from that object's own setup file, only when
the file exists, and only when the object's validator, if it has one, accepted the
file. -/
theorem installTrident_creates_from_checked_files (cfg : Config) (env : Env) {o : Obj}
    {path : String} {err : Option String}
    (hc : (Call.createObject o (.file path), err) ∈ callsOf (installTrident cfg env).events) :
    cfg.useYAML = true ∧ fileExists env.files path = true ∧ overrideFile cfg.paths o = some path ∧
      ∀ r, overrideValidator cfg env o = some r → r = .ok () :=
  allCalls_installTrident cfg env _ hc

/-- The default installation from custom files, its setup files laid out flat. -/
def customConfig : Config :=
  { sampleConfig with
    useYAML := true
    paths := ⟨"setup", "backend.json", "namespace.yaml", "serviceaccount.yaml", "clusterrole.yaml",
      "clusterrolebinding.yaml", "pvc.yaml", "deployment.yaml", "service.yaml", "statefulset.yaml",
      "daemonset.yaml"⟩ }

/-- That installation reads the PVC from its setup file, which passed the PVC
validator. -/
theorem custom_pvc_file_checked :
    (Call.createObject .pvc (.file "pvc.yaml"), none) ∈
        callsOf (installTrident customConfig customYAMLEnv).events ∧
      customConfig.useYAML = true ∧ fileExists customYAMLEnv.files "pvc.yaml" = true ∧
      overrideFile customConfig.paths .pvc = some "pvc.yaml" ∧
      ∀ r, overrideValidator customConfig customYAMLEnv .pvc = some r → r = .ok () :=
  have hc : (Call.createObject .pvc (.file "pvc.yaml"), none) ∈
      callsOf (installTrident customConfig customYAMLEnv).events := by
    decide
  ⟨hc, installTrident_creates_from_checked_files _ _ hc⟩

/-! ## What a checked file holds -/

/-- A deployment, statefulset or daemonset that carries `key: value` on itself and on its
pod template, and whose container named `container` has an image. -/
structure PodController.Fits (d : PodController) (key value container : String) : Prop where
  label : lookupLabel d.labels key = value
  templateLabel : lookupLabel d.templateLabels key = value
  image : containerImage d.containers container ≠ ""

/-- What the setup file of each validated object holds, as its `Read*FromFile` parses
it: the PVC carries the app label and the configured name and namespace; the deployment,
statefulset and service carry the app label; the daemonset carries the node label.  The
objects without a validator are unconstrained. -/
def FileFits (cfg : Config) (env : Env) (path : String) : Obj → Prop
  | .pvc => ∃ pvc, env.readPVCFromFile path = .ok pvc ∧
      lookupLabel pvc.labels cfg.appLabelKey = cfg.appLabelValue ∧ pvc.name = cfg.pvcName ∧
      pvc.namespace_ = cfg.namespace_
  | .deployment => ∃ d, env.readDeploymentFromFile path = .ok d ∧
      d.Fits cfg.appLabelKey cfg.appLabelValue cfg.build.containerTrident
  | .csiService => ∃ service, env.readServiceFromFile path = .ok service ∧
      lookupLabel service.labels cfg.appLabelKey = cfg.appLabelValue
  | .csiStatefulSet => ∃ d, env.readStatefulSetFromFile path = .ok d ∧
      d.Fits cfg.appLabelKey cfg.appLabelValue cfg.build.containerTrident
  | .csiDaemonSet => ∃ d, env.readDaemonSetFromFile path = .ok d ∧
      d.Fits cfg.build.tridentNodeLabelKey cfg.build.tridentNodeLabelValue cfg.build.containerTrident
  | _ => True

section Fits

variable {cfg : Config} {env : Env}

theorem validatePodController_eq_ok {kind : String} {read : Except String PodController}
    {key value container : String} :
    validatePodController kind read key value container = .ok () ↔
      ∃ d, read = .ok d ∧ d.Fits key value container := by
  unfold validatePodController
  cases read with
  | error e => exact ⟨nofun, fun ⟨_, h, _⟩ => nomatch h⟩
  | ok d =>
      simp only [Except.ok.injEq, exists_eq_left']
      split_ifs with hlabel htemplate himage
      · exact ⟨nofun, fun hd => hlabel hd.label⟩
      · exact ⟨nofun, fun hd => htemplate hd.templateLabel⟩
      · exact ⟨nofun, fun hd => hd.image himage⟩
      · exact ⟨fun _ => ⟨not_not.mp hlabel, not_not.mp htemplate, himage⟩, fun _ => rfl⟩

theorem validateTridentService_eq_ok :
    validateTridentService cfg env = .ok () ↔ ∃ service,
      env.readServiceFromFile cfg.paths.csiServicePath = .ok service ∧
        lookupLabel service.labels cfg.appLabelKey = cfg.appLabelValue := by
  unfold validateTridentService
  cases env.readServiceFromFile cfg.paths.csiServicePath with
  | error e => exact ⟨nofun, fun ⟨_, h, _⟩ => nomatch h⟩
  | ok service =>
      simp only [Except.ok.injEq, exists_eq_left']
      split_ifs with hlabel
      · exact ⟨nofun, hlabel⟩
      · exact ⟨fun _ => not_not.mp hlabel, fun _ => rfl⟩

theorem validateTridentPVC_eq_ok :
    validateTridentPVC cfg env = .ok () ↔ ∃ pvc, env.readPVCFromFile cfg.paths.pvcPath = .ok pvc ∧
      lookupLabel pvc.labels cfg.appLabelKey = cfg.appLabelValue ∧ pvc.name = cfg.pvcName ∧
      pvc.namespace_ = cfg.namespace_ := by
  unfold validateTridentPVC
  cases env.readPVCFromFile cfg.paths.pvcPath with
  | error e => exact ⟨nofun, fun ⟨_, h, _⟩ => nomatch h⟩
  | ok pvc =>
      simp only [Except.ok.injEq, exists_eq_left']
      split_ifs with hlabel hname hns
      · exact ⟨nofun, fun hp => hlabel hp.1⟩
      · exact ⟨nofun, fun hp => hname hp.2.1⟩
      · exact ⟨nofun, fun hp => hns hp.2.2⟩
      · exact ⟨fun _ => ⟨not_not.mp hlabel, not_not.mp hname, not_not.mp hns⟩, fun _ => rfl⟩

/-- A checked create from a file reads a file that holds what its validator checks. -/
theorem fileFits_of_checked {o : Obj} {path : String}
    (h : CheckedFileCreate cfg env (.createObject o (.file path))) : FileFits cfg env path o := by
  obtain ⟨-, -, hpath, hval⟩ := h
  cases o <;> cases hpath
  case pvc.refl => exact validateTridentPVC_eq_ok.mp (hval _ rfl)
  case deployment.refl => exact validatePodController_eq_ok.mp (hval _ rfl)
  case csiService.refl => exact validateTridentService_eq_ok.mp (hval _ rfl)
  case csiStatefulSet.refl => exact validatePodController_eq_ok.mp (hval _ rfl)
  case csiDaemonSet.refl =>
    exact validatePodController_eq_ok.mp ((validateTridentDaemonSet_ok_iff cfg env).mp (hval _ rfl))
  all_goals trivial

end Fits

/-- What a custom file is checked for.  In every run of `installTrident`, whatever the
collaborators answer, every object created from a setup file is one its validator
accepted: a PVC with the app label, the configured name and the configured namespace; a
deployment or statefulset with the app label on itself and on its pod template and with
the Trident container; a service with the app label; a daemonset with the node label,
not the app label its messages name, on itself and on its pod template, and with the
Trident container. -/
theorem installTrident_file_objects_fit (cfg : Config) (env : Env) {o : Obj} {path : String}
    {err : Option String}
    (hc : (Call.createObject o (.file path), err) ∈ callsOf (installTrident cfg env).events) :
    FileFits cfg env path o :=
  fileFits_of_checked (allCalls_installTrident cfg env _ hc)

/-- The PVC the custom installation reads is labelled, named and placed as configured. -/
theorem custom_pvc_file_fits :
    (Call.createObject .pvc (.file "pvc.yaml"), none) ∈
        callsOf (installTrident customConfig customYAMLEnv).events ∧
      FileFits customConfig customYAMLEnv "pvc.yaml" .pvc :=
  have hc : (Call.createObject .pvc (.file "pvc.yaml"), none) ∈
      callsOf (installTrident customConfig customYAMLEnv).events := by
    decide
  ⟨hc, installTrident_file_objects_fit _ _ hc⟩

/-! ## The rendered manifests -/

/-- The namespace a rendered manifest puts its object in or binds it to, where it names
one. -/
@[simp] def Manifest.namespaceRef : Manifest → Option String
  | .namespaceYAML ns | .clusterRoleBindingYAML ns _ _ _ | .pvcYAML _ ns _ _
  | .nfsPVYAML _ _ _ ns _ _ _ | .chapISCSIPVYAML _ _ _ ns _ _ _ _ _
  | .iscsiPVYAML _ _ _ ns _ _ _ _ => some ns
  | _ => none

/-- The PVC a rendered manifest is, binds to or mounts, where it names one. -/
@[simp] def Manifest.pvcRef : Manifest → Option String
  | .pvcYAML pvcName _ _ _ | .deploymentYAML pvcName _ _ _ _ | .csiStatefulSetYAML pvcName _ _ _ _
  | .nfsPVYAML _ _ pvcName _ _ _ _ | .chapISCSIPVYAML _ _ pvcName _ _ _ _ _ _
  | .iscsiPVYAML _ _ pvcName _ _ _ _ _ => some pvcName
  | _ => none

/-- The size a rendered manifest asks for or offers, where it names one. -/
@[simp] def Manifest.sizeRef : Manifest → Option String
  | .pvcYAML _ _ size _ | .nfsPVYAML _ size _ _ _ _ _ | .chapISCSIPVYAML _ size _ _ _ _ _ _ _
  | .iscsiPVYAML _ size _ _ _ _ _ _ => some size
  | _ => none

/-- The app label a rendered manifest carries or selects, where it names one. -/
@[simp] def Manifest.labelRef : Manifest → Option String
  | .pvcYAML _ _ _ label | .deploymentYAML _ _ _ label _ | .csiServiceYAML label
  | .csiStatefulSetYAML _ _ _ label _ | .nfsPVYAML _ _ _ _ _ _ label
  | .chapISCSIPVYAML _ _ _ _ _ _ _ _ label | .iscsiPVYAML _ _ _ _ _ _ _ label => some label
  | _ => none

/-- A rendered manifest names the configured namespace, PVC, volume size and app label,
wherever it names one. -/
structure Manifest.Consistent (cfg : Config) (m : Manifest) : Prop where
  namespace_ : ∀ ns, m.namespaceRef = some ns → ns = cfg.namespace_
  pvc : ∀ pvc, m.pvcRef = some pvc → pvc = cfg.pvcName
  size : ∀ size, m.sizeRef = some size → size = cfg.volumeSize
  label : ∀ label, m.labelRef = some label → label = cfg.appLabelValue

/-- A create from a rendered manifest is of a consistent manifest.  Other calls are
unconstrained. -/
def RenderedConsistent (cfg : Config) : Call → Prop
  | .createObject _ (.yaml m) => m.Consistent cfg
  | _ => True

section Rendered

variable (cfg : Config) (env : Env)

theorem renderedConsistent_of_step {c : Call} (h : ∀ o, c.step ≠ .create o) :
    RenderedConsistent cfg c := by
  cases c with
  | createObject o _ => exact absurd rfl (h o)
  | _ => trivial

/-- A run whose plan creates nothing renders nothing. -/
theorem Follows.allCalls_rendered {α : Type} {x : Run α} {p : List Step} (h : Follows x p)
    (hp : ∀ o, Step.create o ∉ p) : AllCalls (RenderedConsistent cfg) x :=
  h.allCalls fun _ hc => renderedConsistent_of_step cfg fun o ho => hp o (ho ▸ hc)

theorem allCalls_rendered_createObjectFromFileOrYAML {o : Obj} {path : String}
    {validation : Option (String × Except String Unit)} {m : Manifest}
    (renderedFields : List (String × Value)) (failure created : String) (hm : m.Consistent cfg) :
    AllCalls (RenderedConsistent cfg)
      (createObjectFromFileOrYAML cfg env o path validation m renderedFields failure created) :=
  allCalls_createObjectFromFileOrYAML_of m renderedFields failure created fun _ => by
    unfold createdBody
    split
    · trivial
    · exact hm

theorem allCalls_rendered_createRBACObjects :
    AllCalls (RenderedConsistent cfg) (createRBACObjects cfg env) := by
  unfold createRBACObjects
  exact (allCalls_rendered_createObjectFromFileOrYAML cfg env _ _ _ (by
    constructor <;> simp)).bind fun _ => .ite
    ((allCalls_rendered_createObjectFromFileOrYAML cfg env _ _ _ (by
      constructor <;> simp)).bind fun _ =>
      (allCalls_rendered_createObjectFromFileOrYAML cfg env _ _ _ (by
        constructor <;> simp)).bind fun _ =>
        .ite ((allCalls_invoke _ trivial).bind fun _ =>
          ((noCalls_check ..).bind fun _ => noCalls_log ..).allCalls) (noCalls_pure _).allCalls)
    (((follows_ucpCreateStep ..).allCalls_rendered cfg (by simp [Call.step])).bind fun _ =>
      (follows_ucpCreateStep ..).allCalls_rendered cfg (by simp [Call.step]))

theorem allCalls_rendered_createCHAPSecret (v : Volume) :
    AllCalls (RenderedConsistent cfg) (createCHAPSecret env v) := by
  unfold createCHAPSecret createSecretUnlessExists
  exact (noCalls_log ..).allCalls.bind fun _ => (noCalls_expect ..).allCalls.bind fun _ =>
    (noCalls_probe ..).allCalls.bind fun _ =>
    (AllCalls.ite (noCalls_log ..).allCalls ((noCalls_log ..).allCalls.bind fun _ =>
      (allCalls_invoke _ (by constructor <;> simp)).bind fun _ =>
        ((noCalls_check ..).bind fun _ => noCalls_log ..).allCalls)).bind fun _ =>
    (noCalls_pure _).allCalls

theorem allCalls_rendered_pvManifest (v : Volume) :
    AllCalls (RenderedConsistent cfg) (pvManifest cfg env v) := by
  unfold pvManifest
  exact .ite (noCalls_pure _).allCalls (.ite (.ite (.ite (noCalls_fail _).allCalls
    ((allCalls_rendered_createCHAPSecret cfg env v).bind fun _ => (noCalls_pure _).allCalls))
    (noCalls_pure _).allCalls) (noCalls_fail _).allCalls)

/-- The PV manifest names the configured PV claim, size and label. -/
theorem pvManifest_consistent (v : Volume) {m : Manifest}
    (h : (pvManifest cfg env v).result = .ok m) : m.Consistent cfg := by
  rcases pvManifest_eq_ok cfg env v h with rfl | ⟨_, -, -, rfl⟩ | rfl <;> constructor <;> simp

theorem allCalls_rendered_createPVIfNeeded (backend : Option Backend) :
    AllCalls (RenderedConsistent cfg) (createPVIfNeeded cfg env backend) := by
  cases backend with
  | none => exact (noCalls_pure _).allCalls
  | some sb =>
      have hpv : AllCalls (RenderedConsistent cfg) (createPV cfg env sb) := by
        unfold createPV
        exact .ite (noCalls_fail _).allCalls
          (((follows_addVolume env _ _).allCalls_rendered cfg (by simp [Call.step])).bind fun v =>
            (allCalls_rendered_pvManifest cfg env v).bind_of_ok fun _ hm =>
              (allCalls_invoke _ (pvManifest_consistent cfg env v hm)).bind fun _ =>
                (noCalls_check ..).allCalls)
      exact (hpv.wrap _).bind fun _ => (noCalls_log ..).allCalls

theorem allCalls_rendered_createWorkloads :
    AllCalls (RenderedConsistent cfg) (createWorkloads cfg env) := by
  unfold createWorkloads createCSIService createCSIStatefulSet createCSIDaemonSet createDeployment
  exact .ite ((allCalls_rendered_createObjectFromFileOrYAML cfg env _ _ _ (by constructor <;> simp)).bind
      fun _ => (allCalls_rendered_createObjectFromFileOrYAML cfg env _ _ _ (by
        constructor <;> simp)).bind fun _ =>
      allCalls_rendered_createObjectFromFileOrYAML cfg env _ _ _ (by constructor <;> simp))
    (allCalls_rendered_createObjectFromFileOrYAML cfg env _ _ _ (by constructor <;> simp))

theorem allCalls_rendered_install (p : Probed) :
    AllCalls (RenderedConsistent cfg) (install cfg env p) := by
  unfold install createNamespace createPVC
  exact (noCalls_log ..).allCalls.bind fun _ =>
    (allCalls_onlyIf _ (allCalls_rendered_createObjectFromFileOrYAML cfg env _ _ _ (by
      constructor <;> simp))).bind fun _ =>
    ((follows_removeRBACObjects cfg env _).allCalls_rendered cfg fun _ => by simp).bind fun _ =>
    (noCalls_stopIf ..).allCalls.bind fun _ =>
    (allCalls_rendered_createRBACObjects cfg env).bind fun _ =>
    (allCalls_onlyIf _ (allCalls_rendered_createObjectFromFileOrYAML cfg env _ _ _ (by
      constructor <;> simp))).bind fun _ =>
    (allCalls_rendered_createPVIfNeeded cfg env _).bind fun _ =>
    (noCalls_waitForPVCBound cfg env).allCalls.bind fun _ =>
    (allCalls_rendered_createWorkloads cfg env).bind fun _ =>
    (noCalls_waitForTridentPod cfg env).allCalls.bind fun pod =>
    (noCalls_wrap _ (noCalls_waitForRESTInterface cfg env pod.name)).allCalls.bind fun _ =>
    (noCalls_log ..).allCalls

theorem allCalls_rendered_installTrident :
    AllCalls (RenderedConsistent cfg) (installTrident cfg env) :=
  (noCalls_preChecks cfg env).allCalls.bind fun p =>
    AllCalls.ite (noCalls_log ..).allCalls (allCalls_rendered_install cfg env p)

end Rendered

/-- The objects a run renders fit together.  In every run of `installTrident`, whatever
the collaborators answer, every manifest the run creates an object from names the
configured namespace, PVC, volume size and app label wherever it names one: the PVC and
the PV's claim are the run's PVC in the run's namespace, the PV offers the size the PVC
asks for, and the workloads mount that PVC and carry the label the service selects. -/
theorem installTrident_renders_consistently (cfg : Config) (env : Env) {o : Obj} {m : Manifest}
    {err : Option String}
    (hc : (Call.createObject o (.yaml m), err) ∈ callsOf (installTrident cfg env).events) :
    m.Consistent cfg :=
  allCalls_rendered_installTrident cfg env _ hc

/-- The default installation creates its PV from the NFS manifest, whose claim, size and
label are the configured ones. -/
theorem healthy_pv_manifest_consistent :
    (Call.createObject .pv (.yaml (.nfsPVYAML "trident" "2Gi" "trident" "trident" "10.0.0.1"
        "/trident" "trident.netapp.io")), none) ∈ callsOf (installTrident sampleConfig healthyEnv).events ∧
      (Manifest.nfsPVYAML "trident" "2Gi" "trident" "trident" "10.0.0.1" "/trident"
        "trident.netapp.io").Consistent sampleConfig :=
  have hc : (Call.createObject .pv (.yaml (.nfsPVYAML "trident" "2Gi" "trident" "trident"
      "10.0.0.1" "/trident" "trident.netapp.io")), none) ∈
        callsOf (installTrident sampleConfig healthyEnv).events := by
    decide
  ⟨hc, installTrident_renders_consistently sampleConfig healthyEnv hc⟩

/-! ## What the command renders -/

/-- What discovery settles: the namespace is the `-n` flag, or without it the client's
current namespace; the topology, the PVC name and the size are the flags'. -/
theorem fields_of_discover {b : Build} {flags : Flags} {env : Env} {cfg : Config}
    (h : (discoverInstallationEnvironment b flags env).result = .ok cfg) :
    cfg.build = b ∧ cfg.csi = flags.csi ∧ cfg.pvcName = flags.pvcName ∧
      cfg.volumeSize = flags.volumeSize ∧
      cfg.namespace_ = if flags.namespace_ = "" then env.currentNamespace else flags.namespace_ := by
  simp only [discoverInstallationEnvironment, result_bind_eq_ok] at h
  obtain ⟨_, -, _, -, _, -, _, -, _, -, ns, hns, _, -, hpure⟩ := h
  cases hpure
  refine ⟨rfl, rfl, rfl, rfl, ?_⟩
  unfold inferNamespace at hns
  by_cases hflag : flags.namespace_ = ""
  · rw [if_pos hflag] at hns ⊢
    obtain ⟨_, -, hpure⟩ := result_bind_eq_ok.mp hns
    exact (Except.ok.inj hpure).symm
  · rw [if_neg hflag] at hns ⊢
    exact (Except.ok.inj hns).symm

/-- The objects the command renders follow its flags.  In every run of `tridentctl
install`, whatever the collaborators answer, every manifest the command creates an
object from names, wherever it names one: the namespace given with `-n`, or without it
the client's current namespace; the PVC given with `--pvc`, or without it the default
name (with a `-csi` suffix for CSI); the size given with `--volume-size`; and the app
label of the topology. -/
theorem installCommand_renders_flags (b : Build) (flags : Flags) (env : Env) {o : Obj}
    {m : Manifest} {err : Option String}
    (hc : (Call.createObject o (.yaml m), err) ∈ callsOf (installCommand b flags env).events) :
    (∀ ns, m.namespaceRef = some ns →
        ns = if flags.namespace_ = "" then env.currentNamespace else flags.namespace_) ∧
      (∀ pvc, m.pvcRef = some pvc → pvc = if flags.pvcName = "" then
        (if flags.csi then b.orchestratorName ++ "-csi" else b.orchestratorName) else flags.pvcName) ∧
      (∀ size, m.sizeRef = some size → size = flags.volumeSize) ∧
      (∀ label, m.labelRef = some label →
        label = if flags.csi then b.tridentCSILabelValue else b.tridentLabelValue) := by
  have hmakes : MakesCall (installCommand b flags env).events := fun hnil => by
    rw [hnil] at hc
    cases hc
  obtain ⟨d, hd, hv, hgen⟩ := exists_install_of_makesCall hmakes
  rw [(installCommand_of_install hd hv hgen).1, callsOf_append,
    noCalls_discoverInstallationEnvironment b flags env, callsOf_fatalOnError, List.nil_append] at hc
  have hm : m.Consistent (processInstallationArguments d) :=
    allCalls_rendered_installTrident (processInstallationArguments d) env _ hc
  obtain ⟨rfl, hcsi, hpvc, hsize, hns⟩ := fields_of_discover hd
  refine ⟨fun ns h => (hm.namespace_ ns h).trans hns, fun pvc h => (hm.pvc pvc h).trans ?_,
    fun size h => (hm.size size h).trans hsize, fun label h => (hm.label label h).trans ?_⟩
  · simp only [processInstallationArguments, hcsi, hpvc]
  · simp only [processInstallationArguments, hcsi]

/-- The default flags with one-letter namespace, PVC and PV names. -/
def shortNameFlags : Flags := { sampleFlags with namespace_ := "t", pvcName := "p", pvName := "v" }

/-- With those flags the command creates its PVC from a manifest that names the PVC, the
namespace and the size it was given, and the non-CSI label. -/
theorem short_names_pvc_rendered :
    (Call.createObject .pvc (.yaml (.pvcYAML "p" "t" "2Gi" "trident.netapp.io")), none) ∈
        callsOf (installCommand sampleBuild shortNameFlags healthyEnv).events ∧
      (∀ ns, (Manifest.pvcYAML "p" "t" "2Gi" "trident.netapp.io").namespaceRef = some ns →
        ns = if shortNameFlags.namespace_ = "" then healthyEnv.currentNamespace
          else shortNameFlags.namespace_) ∧
      (∀ pvc, (Manifest.pvcYAML "p" "t" "2Gi" "trident.netapp.io").pvcRef = some pvc →
        pvc = if shortNameFlags.pvcName = "" then (if shortNameFlags.csi then
          sampleBuild.orchestratorName ++ "-csi" else sampleBuild.orchestratorName)
          else shortNameFlags.pvcName) ∧
      (∀ size, (Manifest.pvcYAML "p" "t" "2Gi" "trident.netapp.io").sizeRef = some size →
        size = shortNameFlags.volumeSize) ∧
      (∀ label, (Manifest.pvcYAML "p" "t" "2Gi" "trident.netapp.io").labelRef = some label →
        label = if shortNameFlags.csi then sampleBuild.tridentCSILabelValue
          else sampleBuild.tridentLabelValue) :=
  have hc : (Call.createObject .pvc (.yaml (.pvcYAML "p" "t" "2Gi" "trident.netapp.io")), none) ∈
      callsOf (installCommand sampleBuild shortNameFlags healthyEnv).events := by
    decide
  ⟨hc, installCommand_renders_flags sampleBuild shortNameFlags healthyEnv hc⟩

end TridentInstaller
