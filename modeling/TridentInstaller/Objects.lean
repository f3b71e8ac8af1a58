import TridentInstaller.Run
set_option autoImplicit false

/-!
# Creating and removing objects (`createRBACObjects`, `removeRBACObjects`)

Two patterns recur through `install.go`: the create block, which creates an object from
its setup file or from the rendered manifest (`createObjectFromFileOrYAML`), and the
best-effort deletion of the teardown, which warns on a failure and only remembers
whether one happened.
-/

namespace TridentInstaller

open Run

/-! ## The create-from-file-or-YAML block -/

/-- The validator step of the create block: only on the file branch, and only for the
objects that have a validator. -/
def validateOverride (fromFile : Bool) (validation : Option (String × Except String Unit)) :
    Run Unit :=
  match fromFile, validation with
  | true, some (what, .error e) => fail ("please correct the " ++ what ++ " YAML file; " ++ e)
  | _, _ => Run.pure ()

/-- The create block of `install.go`.  `validation` is the object's validator and the
word its error names (`"please correct the PVC YAML file"`), for the objects that
have one; `renderedFields` are the log fields of the rendered branch. -/
def createObjectFromFileOrYAML (cfg : Config) (env : Env) (o : Obj) (path : String)
    (validation : Option (String × Except String Unit)) (m : Manifest)
    (renderedFields : List (String × Value)) (failure created : String) : Run Unit := do
  let fromFile := cfg.useYAML && fileExists env.files path
  validateOverride fromFile validation
  let err ← invoke (.createObject o (if fromFile then .file path else .yaml m)) (env.create o)
  check err fun e => failure ++ "; " ++ e
  log .info created (if fromFile then [("path", .str path)] else renderedFields)

section CreateBlock

variable (cfg : Config) (env : Env) (o : Obj) (path : String)
  (validation : Option (String × Except String Unit)) (m : Manifest)
  (renderedFields : List (String × Value)) (failure created : String)

/-- Whether the block takes the file branch. -/
abbrev fromFile : Bool := cfg.useYAML && fileExists env.files path

/-- Whether the block stops at the validator, before creating anything. -/
def validationFails : Prop :=
  fromFile cfg env path = true ∧ ∃ what e, validation = some (what, .error e)

/-- The body the block creates the object from. -/
def createdBody : Body := if fromFile cfg env path then .file path else .yaml m

/-- Stopped by the validator: no event, an error. -/
theorem createObjectFromFileOrYAML_of_validationFails
    (h : validationFails cfg env path validation) :
    (createObjectFromFileOrYAML cfg env o path validation m renderedFields failure created).events
      = [] ∧ ∃ e, (createObjectFromFileOrYAML cfg env o path validation m renderedFields failure
        created).result = .error e := by
  obtain ⟨hfile, what, e, rfl⟩ := h
  simp [createObjectFromFileOrYAML, validateOverride, hfile]

/-- Past the validator: one create call, then a log record on success or an error. -/
theorem createObjectFromFileOrYAML_of_not_validationFails
    (h : ¬ validationFails cfg env path validation) :
    createObjectFromFileOrYAML cfg env o path validation m renderedFields failure created =
      match env.create o with
      | none => ⟨[.call (.createObject o (createdBody cfg env path m)) none,
          .log ⟨.info, created,
            if fromFile cfg env path then [("path", .str path)] else renderedFields⟩], .ok ()⟩
      | some e => ⟨[.call (.createObject o (createdBody cfg env path m)) (some e)],
          .error (failure ++ "; " ++ e)⟩ := by
  have hpass : validateOverride (fromFile cfg env path) validation = Run.pure () := by
    unfold validateOverride
    split
    · exact absurd ⟨‹_›, _, _, rfl⟩ h
    · rfl
  simp only [createObjectFromFileOrYAML, hpass, pure_bind, invoke_bind, createdBody]
  cases env.create o <;> rfl

end CreateBlock

/-! ## Best-effort steps of the teardown -/

/-- One best-effort step of `removeRBACObjects`: make the call, warn with the error on
failure, log `done` at `level` on success; the result says whether it failed. -/
def bestEffort (c : Call) (err : Option String) (failed done : String) (level : Level) :
    Run Bool := do
  let err ← invoke c err
  match err with
  | some e => do
      log .warning failed [("error", .str e)]
      Run.pure true
  | none => do
      log level done []
      Run.pure false

/-- One UCP step of `removeRBACObjects`: as `bestEffort`, but the success is logged at
info level with the client's answer, and a failure is not counted. -/
def ucpBestEffort (c : Call) (answer : Except String Bool) (failed done field : String) :
    Run Unit :=
  match answer with
  | .error e => do
      let _ ← invoke c (some e)
      log .warning failed [("error", .str e)]
  | .ok b => do
      let _ ← invoke c none
      log .info done [(field, .bool b)]

@[simp] theorem events_bestEffort (c : Call) (err : Option String) (failed done : String)
    (level : Level) : (bestEffort c err failed done level).events =
      [.call c err, match err with
        | some e => .log ⟨.warning, failed, [("error", .str e)]⟩
        | none => .log ⟨level, done, []⟩] := by
  cases err <;> rfl

@[simp] theorem result_bestEffort (c : Call) (err : Option String) (failed done : String)
    (level : Level) : (bestEffort c err failed done level).result = .ok err.isSome := by
  cases err <;> rfl

@[simp] theorem result_ucpBestEffort (c : Call) (answer : Except String Bool)
    (failed done field : String) : (ucpBestEffort c answer failed done field).result = .ok () := by
  cases answer <;> rfl

/-! ## RBAC objects -/

/-- `removeRBACObjects`: in native mode delete the cluster role binding and the cluster
role, in UCP mode detach and delete the UCP role; then delete the service account,
and in native mode on OpenShift remove the SCC user.  Returns whether any counted
step failed. -/
def removeRBACObjects (cfg : Config) (env : Env) (logLevel : Level) : Run Bool := do
  let level : Level := if logLevel = .debug then .debug else .info
  let rbacErrors ← (if cfg.useKubernetesRBAC then do
      let bindingFailed ← bestEffort
        (.deleteObjectByYAML .clusterRoleBinding
          (.clusterRoleBindingYAML cfg.namespace_ env.flavor env.version cfg.csi))
        (env.delete .clusterRoleBinding)
        "Could not delete cluster role binding." "Deleted cluster role binding." level
      let roleFailed ← bestEffort
        (.deleteObjectByYAML .clusterRole (.clusterRoleYAML env.flavor env.version cfg.csi))
        (env.delete .clusterRole) "Could not delete cluster role." "Deleted cluster role." level
      Run.pure (bindingFailed || roleFailed)
    else do
      ucpBestEffort (.removeTridentRoleFromServiceAccount cfg.namespace_)
        env.removeTridentRoleFromServiceAccount
        "Could not remove Trident UCP role from service account"
        "Removed Trident UCP role from service account." "removedRoleFromAccount"
      ucpBestEffort .deleteTridentRole env.deleteTridentRole "could not delete Trident UCP role"
        "Deleted Trident UCP role." "deletedRole"
      Run.pure false)
  let accountFailed ← bestEffort (.deleteObjectByYAML .serviceAccount (.serviceAccountYAML cfg.csi))
    (env.delete .serviceAccount) "Could not delete service account." "Deleted service account."
    level
  let sccFailed ← (if cfg.useKubernetesRBAC && env.flavor == .openShift then
      bestEffort .removeTridentUserFromOpenShiftSCC env.removeTridentUserFromOpenShiftSCC
        "Could not modify security context constraint."
        "Removed Trident user from security context constraint." level
    else Run.pure false)
  Run.pure (rbacErrors || accountFailed || sccFailed)

/-- The UCP calls of `createRBACObjects`: make the call, return its error wrapped, or
log the client's answer. -/
def ucpCreateStep (c : Call) (answer : Except String Bool) (failure done field : String) :
    Run Unit :=
  match answer with
  | .error e => do
      let _ ← invoke c (some e)
      fail (failure ++ "; " ++ e)
  | .ok b => do
      let _ ← invoke c none
      log .info done [(field, .bool b)]

/-- `createRBACObjects`: the service account; then in native mode the cluster role, its
binding and, on OpenShift, the SCC user; in UCP mode the UCP role and its attachment to
the service account.  The first failure ends it. -/
def createRBACObjects (cfg : Config) (env : Env) : Run Unit := do
  createObjectFromFileOrYAML cfg env .serviceAccount cfg.paths.serviceAccountPath none
    (.serviceAccountYAML cfg.csi) [] "could not create service account" "Created service account."
  if cfg.useKubernetesRBAC then
    createObjectFromFileOrYAML cfg env .clusterRole cfg.paths.clusterRolePath none
      (.clusterRoleYAML env.flavor env.version cfg.csi) [] "could not create cluster role"
      "Created cluster role."
    createObjectFromFileOrYAML cfg env .clusterRoleBinding cfg.paths.clusterRoleBindingPath none
      (.clusterRoleBindingYAML cfg.namespace_ env.flavor env.version cfg.csi) []
      "could not create cluster role binding" "Created cluster role binding."
    if env.flavor == .openShift then
      let err ← invoke .addTridentUserToOpenShiftSCC env.addTridentUserToOpenShiftSCC
      check err fun e => "could not modify security context constraint; " ++ e
      log .info "Added Trident user to security context constraint." []
  else
    ucpCreateStep .createTridentRole env.createTridentRole "could not create Trident UCP role"
      "Created Trident UCP role." "createdRole"
    ucpCreateStep (.addTridentRoleToServiceAccount cfg.namespace_)
      env.addTridentRoleToServiceAccount "could not add Trident UCP role to service account"
      "Added Trident UCP role to service account." "addedRole"

end TridentInstaller
