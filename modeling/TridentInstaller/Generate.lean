import TridentInstaller.DryRun
set_option autoImplicit false

/-!
# Installing from generated files

`--generate-custom-yaml` writes the rendered manifests to the setup files.  Fed back with
`--use-custom-yaml`, they install what the rendered path installs.  `SameCalls fs x y`
relates the two runs and composes along binds.
-/

namespace TridentInstaller

open Run

/-! ## The setup files a run leaves -/

/-- The contents of the setup files, as far as a run wrote them. -/
abbrev Files := String → Option Manifest

/-- A successful write sets a file's manifest, a successful removal clears it. -/
def Files.apply (fs : Files) : Event → Files
  | .writeFile path m none => Function.update fs path (some m)
  | .removeFile path none => Function.update fs path none
  | _ => fs

/-- The setup files after a trace, from none. -/
def filesAfter (evs : List Event) : Files := evs.foldl Files.apply fun _ => none

/-- A create from a file counts as a create from the manifest the file holds. -/
def Call.resolve (fs : Files) : Call → Call
  | .createObject o (.file path) =>
      match fs path with
      | some m => .createObject o (.yaml m)
      | none => .createObject o (.file path)
  | c => c

/-- The calls of a trace, with creates from files resolved. -/
def resolveCalls (fs : Files) (calls : List (Call × Option String)) : List (Call × Option String) :=
  calls.map fun p => (p.1.resolve fs, p.2)

@[simp] theorem resolveCalls_nil (fs : Files) : resolveCalls fs [] = [] := rfl

@[simp] theorem resolveCalls_append (fs : Files) (l₁ l₂ : List (Call × Option String)) :
    resolveCalls fs (l₁ ++ l₂) = resolveCalls fs l₁ ++ resolveCalls fs l₂ :=
  List.map_append ..

@[simp] theorem resolveCalls_cons (fs : Files) (c : Call) (err : Option String)
    (l : List (Call × Option String)) :
    resolveCalls fs ((c, err) :: l) = (c.resolve fs, err) :: resolveCalls fs l := rfl

/-! ## What the generate step leaves -/

/-- The setup paths are those `prepareYAMLFilePaths` sets, under any installer directory:
distinct file names joined to one directory. -/
theorem pathJoin_injective (dir : String) : Function.Injective (pathJoin dir) := by
  have cancel : ∀ p a b : String, p ++ a = p ++ b → a = b := fun p a b h => by
    have := congrArg String.data h
    simp only [String.data_append] at this
    exact String.ext (List.append_cancel_left this)
  intro a b h
  unfold pathJoin at h
  split at h
  · exact cancel _ _ _ h
  · exact cancel _ _ _ h

theorem setupYAMLPaths_nodup (installerDirectoryPath : String) :
    (setupYAMLPaths (prepareYAMLFilePaths installerDirectoryPath)).Nodup := by
  let names := ["trident-namespace.yaml", "trident-serviceaccount.yaml",
    "trident-clusterrole.yaml", "trident-clusterrolebinding.yaml", "trident-pvc.yaml",
    "trident-deployment.yaml", "trident-service.yaml", "trident-statefulset.yaml",
    "trident-daemonset.yaml"]
  have hpaths : setupYAMLPaths (prepareYAMLFilePaths installerDirectoryPath) =
      names.map (pathJoin (pathJoin installerDirectoryPath "setup")) := by
    simp only [setupYAMLPaths, prepareYAMLFilePaths, names, List.map_cons, List.map_nil]
  rw [hpaths]
  exact List.Nodup.map (pathJoin_injective _) (by simp [names])

/-- Each setup file holds the manifest `installTrident` renders for its object. -/
structure HoldsRendered (cfg : Config) (env : Env) (fs : Files) : Prop where
  namespace_ : fs cfg.paths.namespacePath = some (.namespaceYAML cfg.namespace_)
  serviceAccount : fs cfg.paths.serviceAccountPath = some (.serviceAccountYAML cfg.csi)
  clusterRole : fs cfg.paths.clusterRolePath = some (.clusterRoleYAML env.flavor env.version cfg.csi)
  clusterRoleBinding : fs cfg.paths.clusterRoleBindingPath =
    some (.clusterRoleBindingYAML cfg.namespace_ env.flavor env.version cfg.csi)
  pvc : fs cfg.paths.pvcPath = some (.pvcYAML cfg.pvcName cfg.namespace_ cfg.volumeSize cfg.appLabelValue)
  deployment : cfg.csi = false → fs cfg.paths.deploymentPath =
    some (.deploymentYAML cfg.pvcName cfg.tridentImage cfg.etcdImage cfg.appLabelValue cfg.debug)
  service : cfg.csi = true → fs cfg.paths.csiServicePath = some (.csiServiceYAML cfg.appLabelValue)
  statefulSet : cfg.csi = true → fs cfg.paths.csiStatefulSetPath =
    some (.csiStatefulSetYAML cfg.pvcName cfg.tridentImage cfg.etcdImage cfg.appLabelValue cfg.debug)
  daemonSet : cfg.csi = true → fs cfg.paths.csiDaemonSetPath =
    some (.csiDaemonSetYAML cfg.tridentImage cfg.build.tridentNodeLabelValue cfg.debug)

section Generated

variable (cfg : Config) (env : Env)

@[simp] theorem Files.apply_writeFile (fs : Files) (path : String) (m : Manifest) :
    fs.apply (.writeFile path m none) = Function.update fs path (some m) := rfl

theorem writeManifest_of_written {path : String} {m : Manifest} (what : String)
    (h : env.writeFile path = none) : writeManifest env path m what = ⟨[.writeFile path m none], .ok ()⟩ := by
  simp [writeManifest, h]

theorem written_of_result_writeManifest {path : String} {m : Manifest} {what : String} {u : Unit}
    (h : (writeManifest env path m what).result = .ok u) : env.writeFile path = none := by
  cases hw : env.writeFile path <;> simp_all [writeManifest]

theorem written_of_result_writeManifest_bind {β : Type} {path : String} {m : Manifest}
    {what : String} {f : Unit → Run β} {b : β} (h : (writeManifest env path m what >>= f).result = .ok b) :
    env.writeFile path = none := by
  cases hw : env.writeFile path <;> simp_all [writeManifest]

theorem writeManifest_bind_of_written {β : Type} {path : String} {m : Manifest} (what : String)
    (f : Unit → Run β) (h : env.writeFile path = none) :
    writeManifest env path m what >>= f = ⟨.writeFile path m none :: (f ()).events, (f ()).result⟩ := by
  rw [writeManifest_of_written env what h]
  rfl

theorem cleanYAMLFiles_bind {β : Type} (f : Unit → Run β) :
    cleanYAMLFiles cfg env >>= f = ⟨(cleanYAMLFiles cfg env).events ++ (f ()).events, (f ()).result⟩ :=
  mk_ok_bind_events _ () f

/-- A generate step that succeeds leaves in each setup file the manifest the installer
renders, as long as the setup paths are distinct. -/
theorem holdsRendered_generateYAMLFiles (hpaths : (setupYAMLPaths cfg.paths).Nodup)
    (hgen : (generateYAMLFiles cfg env).result = .ok ()) :
    HoldsRendered cfg env (filesAfter (generateYAMLFiles cfg env).events) := by
  simp only [setupYAMLPaths, List.nodup_cons, List.mem_cons, List.mem_singleton, not_or,
    List.not_mem_nil, not_false_eq_true, List.nodup_nil, and_true] at hpaths
  unfold generateYAMLFiles at hgen ⊢
  cases hcsi : cfg.csi <;>
    simp only [hcsi, Bool.false_eq_true, ↓reduceIte, prepareYAMLFiles, prepareCSIYAMLFiles]
      at hgen ⊢ <;>
  · rw [cleanYAMLFiles_bind] at hgen ⊢
    -- one write at a time; the loop ends where no bind is left, found at reducible transparency
    repeat
      have hw := by with_reducible exact written_of_result_writeManifest_bind env hgen
      rw [writeManifest_bind_of_written env _ _ hw] at hgen ⊢
    dsimp only at hgen
    rw [writeManifest_of_written env _ (written_of_result_writeManifest env hgen)]
    constructor <;> simp only [filesAfter, List.foldl_append, List.foldl_cons, List.foldl_nil,
      Files.apply_writeFile, Function.update_same, ne_eq, hpaths, not_false_eq_true,
      Function.update_noteq, hcsi, Bool.false_eq_true, Bool.true_eq_false, false_implies, forall_const]

end Generated

/-! ## Runs that make the same calls -/

section SameCallsRules

variable {α β : Type} (fs : Files)

/-- The runs make the same calls once the first's creates from files are resolved through
`fs`, and end alike. -/
def SameCalls (x y : Run α) : Prop :=
  resolveCalls fs (callsOf x.events) = callsOf y.events ∧ x.result = y.result

variable {fs}

/-- `SameCalls.bind` for continuations that need the value the runs returned. -/
theorem SameCalls.bind_of {x y : Run α} {f g : α → Run β} (h : SameCalls fs x y)
    (hf : ∀ a, y.result = .ok a → SameCalls fs (f a) (g a)) : SameCalls fs (x >>= f) (y >>= g) := by
  obtain ⟨hcalls, hresult⟩ := h
  cases hx : x.result with
  | ok a =>
      have hy : y.result = .ok a := hresult ▸ hx
      obtain ⟨hcalls', hresult'⟩ := hf a hy
      rw [SameCalls, events_bind_ok f hx, events_bind_ok g hy, result_bind_ok f hx,
        result_bind_ok g hy, callsOf_append, callsOf_append, resolveCalls_append, hcalls, hcalls']
      exact ⟨rfl, hresult'⟩
  | error e =>
      have hy : y.result = .error e := hresult ▸ hx
      rw [SameCalls, events_bind_error f hx, events_bind_error g hy, result_bind_error f hx,
        result_bind_error g hy]
      exact ⟨hcalls, rfl⟩

theorem SameCalls.bind {x y : Run α} {f g : α → Run β} (h : SameCalls fs x y)
    (hf : ∀ a, SameCalls fs (f a) (g a)) : SameCalls fs (x >>= f) (y >>= g) :=
  h.bind_of fun a _ => hf a

theorem SameCalls.of_noCalls {x : Run α} (h : NoCalls x) : SameCalls fs x x :=
  ⟨by rw [h]; rfl, rfl⟩

theorem SameCalls.wrap {x y : Run α} (f : String → String) (h : SameCalls fs x y) :
    SameCalls fs (Run.wrap f x) (Run.wrap f y) :=
  ⟨h.1, by simp only [Run.wrap, h.2]⟩

theorem SameCalls.ite {c : Prop} [Decidable c] {x y x' y' : Run α} (h : SameCalls fs x x')
    (h' : SameCalls fs y y') : SameCalls fs (if c then x else y) (if c then x' else y') := by
  split <;> assumption

/-- `SameCalls.ite` for branches that need the condition. -/
theorem SameCalls.ite_of {c : Prop} [Decidable c] {x y x' y' : Run α} (h : c → SameCalls fs x x')
    (h' : ¬c → SameCalls fs y y') : SameCalls fs (if c then x else y) (if c then x' else y') := by
  split
  · exact h ‹_›
  · exact h' ‹_›

/-- A call not made from a file is the same call on both sides. -/
theorem sameCalls_invoke_bind (c : Call) (err : Option String) {k : Option String → Run β}
    (hc : c.resolve fs = c) (hk : SameCalls fs (k err) (k err)) :
    SameCalls fs (invoke c err >>= k) (invoke c err >>= k) := by
  rw [invoke_bind]
  exact ⟨by simp only [callsOf_cons_call, resolveCalls_cons, hc, hk.1], rfl⟩

theorem SameCalls.onlyIf (c : Bool) {x y : Run Unit} (h : c = true → SameCalls fs x y) :
    SameCalls fs (onlyIf c x) (onlyIf c y) := by
  cases c
  · exact .of_noCalls (noCalls_pure _)
  · exact h rfl

end SameCallsRules

/-! ## The steps that read no setup file -/

section FileFree

variable {fs : Files} (cfg : Config) (env : Env)

theorem sameCalls_bestEffort (c : Call) (err : Option String) (failed done : String) (level : Level)
    (hc : c.resolve fs = c) :
    SameCalls fs (bestEffort c err failed done level) (bestEffort c err failed done level) :=
  sameCalls_invoke_bind c err hc (.of_noCalls (by cases err <;> rfl))

theorem sameCalls_ucpBestEffort (c : Call) (answer : Except String Bool) (failed done field : String)
    (hc : c.resolve fs = c) :
    SameCalls fs (ucpBestEffort c answer failed done field) (ucpBestEffort c answer failed done field) := by
  cases answer
  · exact sameCalls_invoke_bind c _ hc (.of_noCalls (noCalls_log ..))
  · exact sameCalls_invoke_bind c _ hc (.of_noCalls (noCalls_log ..))

theorem sameCalls_ucpCreateStep (c : Call) (answer : Except String Bool) (failure done field : String)
    (hc : c.resolve fs = c) :
    SameCalls fs (ucpCreateStep c answer failure done field) (ucpCreateStep c answer failure done field) := by
  cases answer
  · exact sameCalls_invoke_bind c _ hc (.of_noCalls (noCalls_fail _))
  · exact sameCalls_invoke_bind c _ hc (.of_noCalls (noCalls_log ..))

theorem sameCalls_removeRBACObjects (logLevel : Level) :
    SameCalls fs (removeRBACObjects cfg env logLevel) (removeRBACObjects cfg env logLevel) := by
  unfold removeRBACObjects
  exact (SameCalls.ite ((sameCalls_bestEffort _ _ _ _ _ rfl).bind fun _ =>
      (sameCalls_bestEffort _ _ _ _ _ rfl).bind fun _ => .of_noCalls (noCalls_pure _))
    ((sameCalls_ucpBestEffort _ _ _ _ _ rfl).bind fun _ =>
      (sameCalls_ucpBestEffort _ _ _ _ _ rfl).bind fun _ => .of_noCalls (noCalls_pure _))).bind fun _ =>
    (sameCalls_bestEffort _ _ _ _ _ rfl).bind fun _ =>
    (SameCalls.ite (sameCalls_bestEffort _ _ _ _ _ rfl) (.of_noCalls (noCalls_pure _))).bind fun _ =>
    .of_noCalls (noCalls_pure _)

theorem sameCalls_createSecretUnlessExists (v : Volume) (secretName : String) (secretExists : Bool) :
    SameCalls fs (createSecretUnlessExists env v secretName secretExists)
      (createSecretUnlessExists env v secretName secretExists) := by
  unfold createSecretUnlessExists
  exact .ite (.of_noCalls (noCalls_log ..)) ((SameCalls.of_noCalls (noCalls_log ..)).bind fun _ =>
    sameCalls_invoke_bind _ _ rfl (.of_noCalls (.bind (noCalls_check ..) fun _ => noCalls_log ..)))

theorem sameCalls_createCHAPSecret (v : Volume) :
    SameCalls fs (createCHAPSecret env v) (createCHAPSecret env v) :=
  (SameCalls.of_noCalls (noCalls_log ..)).bind fun _ =>
    (SameCalls.of_noCalls (noCalls_expect ..)).bind fun _ =>
    (SameCalls.of_noCalls (noCalls_probe ..)).bind fun _ =>
    (sameCalls_createSecretUnlessExists env v _ _).bind fun _ => .of_noCalls (noCalls_pure _)

theorem sameCalls_pvManifest (v : Volume) :
    SameCalls fs (pvManifest cfg env v) (pvManifest cfg env v) := by
  unfold pvManifest
  exact .ite (.of_noCalls (noCalls_pure _)) (.ite (.ite (.ite (.of_noCalls (noCalls_fail _))
    ((sameCalls_createCHAPSecret env v).bind fun _ => .of_noCalls (noCalls_pure _)))
    (.of_noCalls (noCalls_pure _))) (.of_noCalls (noCalls_fail _)))

theorem sameCalls_addVolume (config : VolumeConfig) (pool : String) :
    SameCalls fs (addVolume env config pool) (addVolume env config pool) := by
  unfold addVolume
  split
  · exact sameCalls_invoke_bind _ _ rfl (.of_noCalls (noCalls_pure _))
  · exact sameCalls_invoke_bind _ _ rfl (.of_noCalls (noCalls_fail _))

theorem sameCalls_createPVIfNeeded (backend : Option Backend) :
    SameCalls fs (createPVIfNeeded cfg env backend) (createPVIfNeeded cfg env backend) := by
  cases backend with
  | none => exact .of_noCalls (noCalls_pure _)
  | some sb =>
      unfold createPVIfNeeded createPV
      exact (SameCalls.wrap _ (.ite (.of_noCalls (noCalls_fail _))
        ((sameCalls_addVolume env _ _).bind fun _ => (sameCalls_pvManifest cfg env _).bind fun _ =>
          sameCalls_invoke_bind (k := fun err => check err _) _ _ rfl
            (.of_noCalls (noCalls_check ..))))).bind fun _ => .of_noCalls (noCalls_log ..)

end FileFree

/-! ## The create block, and the whole run -/

section Install

variable {fs : Files} (cfg : Config) (env : Env)

/-- With custom YAML the block creates from the file when it exists; the file holds the
rendered manifest, so after resolving, both runs make the same create. -/
theorem sameCalls_createObjectFromFileOrYAML (o : Obj) (path : String)
    (validation validation' : Option (String × Except String Unit)) (m : Manifest)
    (renderedFields : List (String × Value)) (failure created : String)
    (hfile : fileExists env.files path = true → fs path = some m)
    (hval : ∀ what r, validation = some (what, r) → fileExists env.files path = true → r = .ok ()) :
    SameCalls fs
      (createObjectFromFileOrYAML {cfg with useYAML := true} env o path validation m renderedFields
        failure created)
      (createObjectFromFileOrYAML {cfg with useYAML := false} env o path validation' m renderedFields
        failure created) := by
  have hcustom : ¬ validationFails {cfg with useYAML := true} env path validation := by
    rintro ⟨hexists, what, e, rfl⟩
    cases hval what _ rfl hexists
  have hrendered : ¬ validationFails {cfg with useYAML := false} env path validation' :=
    fun ⟨h, _⟩ => by cases h
  rw [createObjectFromFileOrYAML_of_not_validationFails _ _ _ _ _ _ _ _ _ hcustom,
    createObjectFromFileOrYAML_of_not_validationFails _ _ _ _ _ _ _ _ _ hrendered]
  cases hexists : fileExists env.files path <;> cases env.create o <;>
    simp [SameCalls, createdBody, hexists, Call.resolve, hfile]

variable {cfg env} (hfs : HoldsRendered cfg env fs) (hov : OverridesValid {cfg with useYAML := true} env)
include hfs

theorem sameCalls_createRBACObjects :
    SameCalls fs (createRBACObjects {cfg with useYAML := true} env)
      (createRBACObjects {cfg with useYAML := false} env) := by
  unfold createRBACObjects
  exact (sameCalls_createObjectFromFileOrYAML cfg env _ _ _ _ _ _ _ _ (fun _ => hfs.serviceAccount)
    (by simp)).bind fun _ => .ite ((sameCalls_createObjectFromFileOrYAML cfg env _ _ _ _ _ _ _ _
      (fun _ => hfs.clusterRole) (by simp)).bind fun _ =>
    (sameCalls_createObjectFromFileOrYAML cfg env _ _ _ _ _ _ _ _ (fun _ => hfs.clusterRoleBinding)
      (by simp)).bind fun _ => .ite (sameCalls_invoke_bind _ _ rfl
        (.of_noCalls (.bind (noCalls_check ..) fun _ => noCalls_log ..))) (.of_noCalls (noCalls_pure _)))
    ((sameCalls_ucpCreateStep _ _ _ _ _ rfl).bind fun _ => sameCalls_ucpCreateStep _ _ _ _ _ rfl)

include hov

theorem sameCalls_createWorkloads :
    SameCalls fs (createWorkloads {cfg with useYAML := true} env)
      (createWorkloads {cfg with useYAML := false} env) := by
  unfold createWorkloads
  refine .ite_of (fun hcsi => ?_) fun hcsi => ?_
  · exact (sameCalls_createObjectFromFileOrYAML cfg env _ _ _ _ _ _ _ _ (fun _ => hfs.service hcsi)
      fun _ _ h => by cases h; exact hov.service hcsi).bind fun _ =>
    (sameCalls_createObjectFromFileOrYAML cfg env _ _ _ _ _ _ _ _ (fun _ => hfs.statefulSet hcsi)
      fun _ _ h => by cases h; exact hov.statefulSet hcsi).bind fun _ =>
    sameCalls_createObjectFromFileOrYAML cfg env _ _ _ _ _ _ _ _ (fun _ => hfs.daemonSet hcsi)
      fun _ _ h => by cases h; exact hov.daemonSet hcsi
  · have hcsi : cfg.csi = false := by simpa using hcsi
    exact sameCalls_createObjectFromFileOrYAML cfg env _ _ _ _ _ _ _ _ (fun _ => hfs.deployment hcsi)
      fun _ _ h => by cases h; exact hov.deployment hcsi

theorem sameCalls_install (p : Probed) (hpvc : env.checkPVCExists cfg.pvcName = .ok p.pvcExists) :
    SameCalls fs (install {cfg with useYAML := true} env p) (install {cfg with useYAML := false} env p) := by
  unfold install
  exact (SameCalls.of_noCalls (noCalls_log ..)).bind fun _ =>
    (SameCalls.onlyIf _ fun _ => sameCalls_createObjectFromFileOrYAML cfg env _ _ _ _ _ _ _ _
      (fun _ => hfs.namespace_) (by simp)).bind fun _ =>
    (sameCalls_removeRBACObjects cfg env _).bind fun _ =>
    (SameCalls.of_noCalls (noCalls_stopIf ..)).bind fun _ =>
    (sameCalls_createRBACObjects hfs).bind fun _ =>
    (SameCalls.onlyIf _ fun hnew => sameCalls_createObjectFromFileOrYAML cfg env _ _ _ _ _ _ _ _
      (fun _ => hfs.pvc) fun _ _ h => by cases h; exact hov.pvc (by simpa [hpvc] using hnew)).bind fun _ =>
    (sameCalls_createPVIfNeeded cfg env _).bind fun _ =>
    (SameCalls.of_noCalls (noCalls_waitForPVCBound cfg env)).bind fun _ =>
    (sameCalls_createWorkloads hfs hov).bind fun _ =>
    (SameCalls.of_noCalls (noCalls_waitForTridentPod cfg env)).bind fun pod =>
    (SameCalls.wrap _ (.of_noCalls (noCalls_waitForRESTInterface cfg env pod.name))).bind fun _ =>
    .of_noCalls (noCalls_log ..)

theorem sameCalls_installTrident :
    SameCalls fs (installTrident {cfg with useYAML := true} env)
      (installTrident {cfg with useYAML := false} env) := by
  unfold installTrident
  exact (SameCalls.of_noCalls (noCalls_preChecks cfg env)).bind_of fun p hp =>
    .ite (.of_noCalls (noCalls_log ..)) (sameCalls_install hfs hov p (preChecks_answers _ env hp).2.1)

end Install

/-- Feeding the generated setup files back in installs what the rendered path installs.
Once every create from a file is resolved to the manifest the generate step left in that
file, a run with custom YAML makes the same calls, with the same answers, as a run
without. -/
theorem generated_files_install_as_rendered (cfg : Config) (env : Env)
    (hpaths : (setupYAMLPaths cfg.paths).Nodup) (hgen : (generateYAMLFiles cfg env).result = .ok ())
    (hov : OverridesValid {cfg with useYAML := true} env) :
    resolveCalls (filesAfter (generateYAMLFiles cfg env).events)
        (callsOf (installTrident {cfg with useYAML := true} env).events) =
      callsOf (installTrident {cfg with useYAML := false} env).events :=
  (sameCalls_installTrident (holdsRendered_generateYAMLFiles cfg env hpaths hgen) hov).1

/-- A healthy cluster whose override files parse into objects that pass the validators. -/
def customYAMLEnv : Env :=
  { healthyEnv with
    readPVCFromFile := fun _ => .ok ⟨"trident", "trident", some [("app", "trident.netapp.io")], "", ""⟩
    readDeploymentFromFile := fun _ => .ok ⟨some [("app", "trident.netapp.io")],
      some [("app", "trident.netapp.io")], [⟨"trident-main", "netapp/trident:18.07.0"⟩]⟩ }

/-- The default installation, generated and then installed from its files. -/
theorem generated_files_install_as_rendered_default :
    resolveCalls (filesAfter (generateYAMLFiles sampleConfig customYAMLEnv).events)
        (callsOf (installTrident {sampleConfig with useYAML := true} customYAMLEnv).events) =
      callsOf (installTrident {sampleConfig with useYAML := false} customYAMLEnv).events :=
  generated_files_install_as_rendered sampleConfig customYAMLEnv (setupYAMLPaths_nodup _) (by decide)
    ⟨fun _ _ => by decide, fun _ _ => by decide, nofun, nofun, nofun⟩

/-- Unresolved, the two runs differ: the custom-YAML run creates from the files. -/
example : callsOf (installTrident {sampleConfig with useYAML := true} customYAMLEnv).events ≠
    callsOf (installTrident {sampleConfig with useYAML := false} customYAMLEnv).events := by
  decide

end TridentInstaller
