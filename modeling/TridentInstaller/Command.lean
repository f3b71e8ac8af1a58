import TridentInstaller.DryRun
set_option autoImplicit false

/-!
# The install command

`tridentctl install` (`installCommand`) makes no mutating call or the calls of one run of
`installTrident` on a validated configuration.  It also logs the UCP bearer token at debug
level, and at no other.
-/

namespace TridentInstaller

open Run

/-! ## The installer underneath -/

section Underneath

variable {α β : Type}

theorem MakesCall.of_bind {x : Run α} {f : α → Run β} (hx : NoCalls x)
    (h : MakesCall (x >>= f).events) : ∃ a, x.result = .ok a ∧ MakesCall (f a).events := by
  cases hr : x.result with
  | error e =>
      rw [events_bind_error f hr] at h
      exact absurd hx h
  | ok a =>
      rw [events_bind_ok f hr] at h
      exact ⟨a, rfl, fun hnil => h (by rw [callsOf_append, hx, hnil]; rfl)⟩

theorem noCalls_fatalOnError (msg : String → String) {x : Run α} (h : NoCalls x) :
    NoCalls (fatalOnError msg x) := by
  unfold fatalOnError NoCalls at *
  split <;> simp [h]

theorem result_fatalOnError_eq_ok {msg : String → String} {x : Run α} {a : α} :
    (fatalOnError msg x).result = .ok a ↔ x.result = .ok a := by
  cases hx : x.result <;> simp [fatalOnError, hx]

theorem MakesCall.of_fatalOnError {msg : String → String} {x : Run α}
    (h : MakesCall (fatalOnError msg x).events) : MakesCall x.events := by
  unfold fatalOnError at h
  split at h
  · exact h
  · simpa [MakesCall] using h

theorem noCalls_discoverInstallationEnvironment (b : Build) (flags : Flags) (env : Env) :
    NoCalls (discoverInstallationEnvironment b flags env) := by
  unfold discoverInstallationEnvironment inferNamespace
  exact .bind (noCalls_onlyIf _ (noCalls_log ..)) fun _ => .bind (noCalls_stopIf ..) fun _ =>
    .bind (noCalls_check ..) fun _ => .bind (noCalls_onlyIf _ (noCalls_check ..)) fun _ =>
    .bind (noCalls_expect ..) fun _ =>
    .bind (.ite (.bind (noCalls_onlyIf _ (noCalls_log ..)) fun _ => noCalls_pure _) (noCalls_pure _))
      fun _ => .bind (noCalls_log ..) fun _ => noCalls_pure _

theorem noCalls_generateYAMLFiles (cfg : Config) (env : Env) : NoCalls (generateYAMLFiles cfg env) := by
  have hwrite : ∀ path m what, NoCalls (writeManifest env path m what) := fun path _ _ => by
    unfold writeManifest
    cases env.writeFile path <;> rfl
  have hclean : NoCalls (cleanYAMLFiles cfg env) :=
    List.filterMap_eq_nil_iff.mpr fun _ hev => by
      obtain ⟨p, -, rfl⟩ := List.mem_map.mp hev
      rfl
  unfold generateYAMLFiles prepareYAMLFiles prepareCSIYAMLFiles
  split
  · exact .bind hclean fun _ => .bind (hwrite ..) fun _ => .bind (hwrite ..) fun _ =>
      .bind (hwrite ..) fun _ => .bind (hwrite ..) fun _ => .bind (hwrite ..) fun _ =>
      .bind (hwrite ..) fun _ => .bind (hwrite ..) fun _ => hwrite ..
  · exact .bind hclean fun _ => .bind (hwrite ..) fun _ => .bind (hwrite ..) fun _ =>
      .bind (hwrite ..) fun _ => .bind (hwrite ..) fun _ => .bind (hwrite ..) fun _ => hwrite ..

theorem callsOf_fatalOnError {α : Type} (msg : String → String) (x : Run α) :
    callsOf (fatalOnError msg x).events = callsOf x.events := by
  unfold fatalOnError
  split <;> simp

/-- A command run that makes a call discovered its configuration, passed validation and
does not generate the setup files. -/
theorem exists_install_of_makesCall {b : Build} {flags : Flags} {env : Env}
    (hcalls : MakesCall (installCommand b flags env).events) :
    ∃ d, (discoverInstallationEnvironment b flags env).result = .ok d ∧
      validateInstallationArguments (processInstallationArguments d).namespace_
        (processInstallationArguments d).pvcName (processInstallationArguments d).pvName = .ok () ∧
      flags.generateYAML = false := by
  unfold installCommand at hcalls
  obtain ⟨d, hd, hcalls⟩ := MakesCall.of_bind
    (noCalls_fatalOnError _ (noCalls_discoverInstallationEnvironment b flags env)) hcalls
  obtain ⟨u, hv, hcalls⟩ := MakesCall.of_bind (noCalls_fatalOnError _ (noCalls_ofExcept _)) hcalls
  refine ⟨d, result_fatalOnError_eq_ok.mp hd, result_fatalOnError_eq_ok.mp hv, ?_⟩
  by_contra hgen
  rw [if_pos (Bool.eq_true_of_not_eq_false hgen)] at hcalls
  exact hcalls (NoCalls.bind (noCalls_fatalOnError _ (noCalls_generateYAMLFiles ..)) fun _ =>
    noCalls_log ..)

/-- Past discovery and validation, without `--generate-custom-yaml`, the command is its
discovery, then the installer under `log.Fatalf`. -/
theorem installCommand_of_install {b : Build} {flags : Flags} {env : Env} {d : Config}
    (hd : (discoverInstallationEnvironment b flags env).result = .ok d)
    (hv : validateInstallationArguments (processInstallationArguments d).namespace_
      (processInstallationArguments d).pvcName (processInstallationArguments d).pvName = .ok ())
    (hgen : flags.generateYAML = false) :
    let install := fatalOnError (fun e => "Install failed; " ++ e ++
      ".  Resolve the issue; use 'tridentctl uninstall' to clean up; and try again.")
      (installTrident (processInstallationArguments d) env)
    (installCommand b flags env).events =
        (discoverInstallationEnvironment b flags env).events ++ install.events ∧
      (installCommand b flags env).result = install.result := by
  have hdiscover : (fatalOnError (fun e => "Install pre-checks failed; " ++ e)
      (discoverInstallationEnvironment b flags env)).result = .ok d :=
    result_fatalOnError_eq_ok.mpr hd
  have hvalid : (fatalOnError (fun e => "Invalid arguments; " ++ e) (ofExcept
      (validateInstallationArguments (processInstallationArguments d).namespace_
        (processInstallationArguments d).pvcName (processInstallationArguments d).pvName))).result =
      .ok () :=
    result_fatalOnError_eq_ok.mpr hv
  unfold installCommand
  rw [events_bind_ok _ hdiscover, events_bind_ok _ hvalid, result_bind_ok _ hdiscover,
    result_bind_ok _ hvalid, if_neg (by simp [hgen])]
  unfold fatalOnError
  rw [hd, hv]
  exact ⟨rfl, rfl⟩

/-- A command run that discovers its configuration and passes validation makes a call
when its install does. -/
theorem makesCall_installCommand {b : Build} {flags : Flags} {env : Env} {d : Config}
    (hd : (discoverInstallationEnvironment b flags env).result = .ok d)
    (hv : validateInstallationArguments (processInstallationArguments d).namespace_
      (processInstallationArguments d).pvcName (processInstallationArguments d).pvName = .ok ())
    (hgen : flags.generateYAML = false)
    (h : MakesCall (installTrident (processInstallationArguments d) env).events) :
    MakesCall (installCommand b flags env).events := by
  unfold MakesCall at *
  rw [(installCommand_of_install hd hv hgen).1, callsOf_append,
    noCalls_discoverInstallationEnvironment, callsOf_fatalOnError]
  exact h

/-- The command's calls are an install's.  A run of `tridentctl install` makes no
mutating call, or makes exactly the calls of one run of `installTrident`, without
`--generate-custom-yaml` and with a configuration whose names passed validation: the
namespace is shaped as a DNS-1123 label, the PVC and PV names as DNS-1123 subdomains. -/
theorem installCommand_refines_installTrident (b : Build) (flags : Flags) (env : Env) :
    NoCalls (installCommand b flags env) ∨
      ∃ cfg, flags.generateYAML = false ∧ LabelShaped cfg.namespace_.toList ∧
        SubdomainShaped cfg.pvcName.toList ∧ SubdomainShaped cfg.pvName.toList ∧
        callsOf (installCommand b flags env).events = callsOf (installTrident cfg env).events := by
  by_cases hcalls : NoCalls (installCommand b flags env)
  · exact .inl hcalls
  obtain ⟨d, hd, hv, hgen⟩ := exists_install_of_makesCall hcalls
  obtain ⟨hns, hpvc, hpv⟩ := (validateInstallationArguments_ok_iff _ _ _).mp hv
  refine .inr ⟨processInstallationArguments d, hgen, hns, hpvc, hpv, ?_⟩
  rw [(installCommand_of_install hd hv hgen).1, callsOf_append,
    noCalls_discoverInstallationEnvironment b flags env, callsOf_fatalOnError]
  rfl

end Underneath

/-! ## Calls only after the size parses -/

/-- Flags with every default: a non-CSI install into namespace `trident`. -/
def sampleFlags : Flags where
  dryRun := false
  generateYAML := false
  useYAML := false
  csi := false
  pvName := ""
  pvcName := ""
  volumeName := ""
  volumeSize := "2Gi"
  tridentImage := ""
  etcdImage := ""
  k8sTimeout := 180000000000
  ucpBearerToken := ""
  ucpHost := ""
  namespace_ := "trident"
  debug := false

/-- The discovered configuration carries the size as given. -/
theorem volumeSize_of_discover {b : Build} {flags : Flags} {env : Env} {cfg : Config}
    (h : (discoverInstallationEnvironment b flags env).result = .ok cfg) :
    cfg.volumeSize = flags.volumeSize := by
  simp only [discoverInstallationEnvironment, result_bind_eq_ok] at h
  obtain ⟨_, -, _, -, _, -, _, -, _, -, _, -, _, -, hpure⟩ := h
  cases hpure
  rfl

/-- The command makes a mutating call only if the volume size parses; any quantity the
parser accepts will do, whatever its sign. -/
theorem install_command_calls_need_parsed_size (b : Build) (flags : Flags) (env : Env)
    (h : MakesCall (installCommand b flags env).events) :
    ∃ q, env.parseQuantity flags.volumeSize = .ok q := by
  unfold installCommand at h
  obtain ⟨cfg, hcfg, h⟩ := MakesCall.of_bind
    (noCalls_fatalOnError _ (noCalls_discoverInstallationEnvironment b flags env)) h
  obtain ⟨_, -, h⟩ := MakesCall.of_bind (noCalls_fatalOnError _ (noCalls_ofExcept _)) h
  split at h
  · exact absurd (NoCalls.bind (noCalls_fatalOnError _ (noCalls_generateYAMLFiles ..)) fun _ =>
      noCalls_log ..) h
  · have hinstall := h.of_fatalOnError
    cases hpre : (preChecks (processInstallationArguments cfg) env).result with
    | error e =>
        refine absurd hinstall fun hcalls => hcalls ?_
        rw [installTrident, events_bind_error _ hpre]
        exact noCalls_preChecks ..
    | ok p =>
        obtain ⟨q, hq⟩ := ((result_preChecks ..).mp ⟨p, hpre⟩).sizeParses
        exact ⟨q, volumeSize_of_discover (result_fatalOnError_eq_ok.mp hcfg) ▸ hq⟩

/-- A zero volume size passes every check and the command goes on to install. -/
theorem install_command_accepts_zero_size :
    ¬ ∀ (b : Build) (flags : Flags) (env : Env), MakesCall (installCommand b flags env).events →
      ∃ q, env.parseQuantity flags.volumeSize = .ok q ∧ q.IsPositive := fun h => by
  obtain ⟨q, hq, hpos⟩ := h sampleBuild {sampleFlags with volumeSize := "0"} healthyEnv
    (makesCall_installCommand rfl validateInstallationArguments_trident rfl (by decide))
  cases hq.symm.trans (documentedParseQuantity_zero : healthyEnv.parseQuantity "0" = _)
  exact absurd hpos (by decide)

/-- The default command installs, and its size parses. -/
theorem default_install_command_size_parses :
    MakesCall (installCommand sampleBuild sampleFlags healthyEnv).events ∧
      ∃ q, healthyEnv.parseQuantity sampleFlags.volumeSize = .ok q :=
  have h : MakesCall (installCommand sampleBuild sampleFlags healthyEnv).events :=
    makesCall_installCommand rfl validateInstallationArguments_trident rfl (by decide)
  ⟨h, install_command_calls_need_parsed_size sampleBuild sampleFlags healthyEnv h⟩

/-- With `--generate-custom-yaml` the command only writes the setup files: it makes no
mutating call, whatever the cluster answers. -/
theorem generate_command_makes_no_calls (b : Build) (flags : Flags) (env : Env)
    (hgen : flags.generateYAML = true) : NoCalls (installCommand b flags env) :=
  .bind (noCalls_fatalOnError _ (noCalls_discoverInstallationEnvironment b flags env)) fun _ =>
    .bind (noCalls_fatalOnError _ (noCalls_ofExcept _)) fun _ => by
      rw [if_pos hgen]
      exact .bind (noCalls_fatalOnError _ (noCalls_generateYAMLFiles ..)) fun _ => noCalls_log ..

/-- The default flags with `--generate-custom-yaml`. -/
theorem generate_default_command_makes_no_calls :
    ({sampleFlags with generateYAML := true} : Flags).generateYAML = true ∧
      NoCalls (installCommand sampleBuild {sampleFlags with generateYAML := true} healthyEnv) :=
  ⟨rfl, generate_command_makes_no_calls sampleBuild {sampleFlags with generateYAML := true} healthyEnv rfl⟩

/-! ## What the UCP token reaches -/

/-- A record as an operator sees it once debug records lose the value of their
`ucpBearerToken` field. -/
def LogRecord.redactToken (r : LogRecord) : LogRecord :=
  if r.level = .debug then
    { r with fields := r.fields.map fun f => if f.1 = "ucpBearerToken" then (f.1, .str "") else f }
  else r

/-- `LogRecord.redactToken` on the records of a trace. -/
def Event.redactToken : Event → Event
  | .log r => .log r.redactToken
  | ev => ev

/-- The records a logger set to `level` writes. -/
def visibleAt (level : Level) (evs : List Event) : List LogRecord :=
  evs.filterMap fun
    | .log r => if r.level.rank ≤ level.rank then some r else none
    | _ => none

/-- A logger above debug level drops every debug record. -/
theorem not_debug_rank_le {level : Level} (hlevel : level ≠ .debug) :
    ¬ Level.debug.rank ≤ level.rank := by
  cases level <;> simp_all [Level.rank]

/-- Redacting debug records changes nothing a logger above debug level writes. -/
theorem visibleAt_redactToken {level : Level} (hlevel : level ≠ .debug) (evs : List Event) :
    visibleAt level (evs.map Event.redactToken) = visibleAt level evs := by
  rw [visibleAt, visibleAt, List.filterMap_map]
  refine List.filterMap_congr fun ev _ => ?_
  cases ev with
  | log r =>
      by_cases hd : r.level = .debug
      · simp [Event.redactToken, LogRecord.redactToken, hd, not_debug_rank_le hlevel]
      · simp [Event.redactToken, LogRecord.redactToken, hd]
  | _ => rfl

section Token

variable {α β : Type}

/-- How two runs end: related values, or the same error. -/
def ResultRel (R : α → α → Prop) : Except String α → Except String α → Prop
  | .ok a, .ok b => R a b
  | .error e, .error e' => e = e'
  | _, _ => False

/-- Two runs indistinguishable once debug records lose the token: the same events up to
that, and results related by `R`. -/
def Indist (R : α → α → Prop) (x y : Run α) : Prop :=
  x.events.map Event.redactToken = y.events.map Event.redactToken ∧ ResultRel R x.result y.result

theorem Indist.bind {R : α → α → Prop} {S : β → β → Prop} {x y : Run α} {f g : α → Run β}
    (h : Indist R x y) (hf : ∀ a b, R a b → Indist S (f a) (g b)) :
    Indist S (x >>= f) (y >>= g) := by
  obtain ⟨hevents, hresult⟩ := h
  cases hx : x.result <;> cases hy : y.result <;> rw [hx, hy] at hresult <;>
    simp only [ResultRel] at hresult
  · subst hresult
    exact ⟨by rw [events_bind_error f hx, events_bind_error g hy, hevents],
      by rw [result_bind_error f hx, result_bind_error g hy]; rfl⟩
  · rename_i a b
    obtain ⟨hevents', hresult'⟩ := hf a b hresult
    refine ⟨?_, by rwa [result_bind_ok f hx, result_bind_ok g hy]⟩
    rw [events_bind_ok f hx, events_bind_ok g hy, List.map_append, List.map_append, hevents, hevents']

theorem Indist.refl {R : α → α → Prop} (x : Run α) (hR : ∀ a, R a a) : Indist R x x := by
  refine ⟨rfl, ?_⟩
  cases x.result
  · rfl
  · exact hR _

theorem resultRel_eq_iff {r r' : Except String α} : ResultRel Eq r r' ↔ r = r' := by
  cases r <;> cases r' <;> simp [ResultRel]

theorem Indist.symm {x y : Run α} (h : Indist Eq x y) : Indist Eq y x :=
  ⟨h.1.symm, resultRel_eq_iff.mpr (resultRel_eq_iff.mp h.2).symm⟩

theorem Indist.trans {x y z : Run α} (h : Indist Eq x y) (h' : Indist Eq y z) : Indist Eq x z :=
  ⟨h.1.trans h'.1, resultRel_eq_iff.mpr ((resultRel_eq_iff.mp h.2).trans (resultRel_eq_iff.mp h'.2))⟩

theorem Indist.fatalOnError {R : α → α → Prop} (msg : String → String) {x y : Run α}
    (h : Indist R x y) : Indist R (fatalOnError msg x) (fatalOnError msg y) := by
  obtain ⟨hevents, hresult⟩ := h
  unfold TridentInstaller.fatalOnError
  cases hx : x.result <;> cases hy : y.result <;> rw [hx, hy] at hresult <;>
    simp only [ResultRel] at hresult
  · subst hresult
    exact ⟨by simp [hevents], rfl⟩
  · exact ⟨hevents, hresult⟩

theorem Indist.of_eq {x y : Run α} (h : x = y) : Indist Eq x y := h ▸ .refl x fun _ => rfl

theorem Indist.ite {R : α → α → Prop} {c : Prop} [Decidable c] {x y x' y' : Run α}
    (h : Indist R x x') (h' : Indist R y y') : Indist R (if c then x else y) (if c then x' else y') := by
  split <;> assumption

end Token

/-! ## Two runs that differ only in the token -/

/-- The configuration with its token blanked. -/
def Config.withoutToken (cfg : Config) : Config := { cfg with ucpBearerToken := "" }

section WithoutToken

variable (cfg : Config) (env : Env)

/-- The already-installed check is where the token goes: into the debug record of the
non-CSI path, which redaction blanks. -/
theorem indist_checkAlreadyInstalled :
    Indist Eq (checkAlreadyInstalled cfg env) (checkAlreadyInstalled cfg.withoutToken env) := by
  unfold checkAlreadyInstalled
  by_cases hcsi : cfg.csi = true
  · rw [if_pos hcsi, if_pos (show cfg.withoutToken.csi = true from hcsi)]
    exact .refl _ fun _ => rfl
  · rw [if_neg hcsi, if_neg (show ¬ cfg.withoutToken.csi = true from hcsi)]
    refine Indist.bind (R := Eq) ⟨?_, rfl⟩ fun _ _ _ => .refl _ fun _ => rfl
    simp [Run.log, Run.emit, Event.redactToken, LogRecord.redactToken, Config.withoutToken]

theorem indist_preChecks : Indist Eq (preChecks cfg env) (preChecks cfg.withoutToken env) := by
  unfold preChecks
  exact (Indist.refl _ fun _ => rfl).bind fun _ _ h => h ▸ (Indist.refl _ fun _ => rfl).bind
    fun _ _ _ => (indist_checkAlreadyInstalled cfg env).bind fun _ _ _ => .refl _ fun _ => rfl

theorem indist_installTrident :
    Indist Eq (installTrident cfg env) (installTrident cfg.withoutToken env) :=
  (indist_preChecks cfg env).bind fun _ _ h => h ▸ .refl _ fun _ => rfl

/-- Two configurations that differ at most in the token. -/
theorem withoutToken_processInstallationArguments :
    (processInstallationArguments cfg).withoutToken = processInstallationArguments cfg.withoutToken :=
  rfl

end WithoutToken

section Discover

variable (b : Build) (flags : Flags) (env : Env) {t₁ t₂ : String}

/-- With any non-empty token the installer uses UCP and carries the token; nothing else
of the discovery depends on which token it is. -/
theorem indist_discoverInstallationEnvironment (h₁ : t₁ ≠ "") (h₂ : t₂ ≠ "") :
    Indist (fun c₁ c₂ => c₁.withoutToken = c₂.withoutToken)
      (discoverInstallationEnvironment b {flags with ucpBearerToken := t₁} env)
      (discoverInstallationEnvironment b {flags with ucpBearerToken := t₂} env) := by
  unfold discoverInstallationEnvironment
  simp only [h₁, h₂, decide_False, Bool.false_and]
  exact (Indist.refl _ fun _ => rfl).bind fun _ _ _ => (Indist.refl _ fun _ => rfl).bind fun _ _ _ =>
    (Indist.refl _ fun _ => rfl).bind fun _ _ _ => (Indist.refl _ fun _ => rfl).bind fun _ _ _ =>
    (Indist.refl _ fun _ => rfl).bind fun _ _ h => h ▸ (Indist.refl _ fun _ => rfl).bind
    fun _ _ h => h ▸ (Indist.refl _ fun _ => rfl).bind fun _ _ _ => ⟨rfl, rfl⟩

/-- The command runs with two non-empty tokens are indistinguishable once debug records
lose the token. -/
theorem indist_installCommand (h₁ : t₁ ≠ "") (h₂ : t₂ ≠ "") :
    Indist Eq (installCommand b {flags with ucpBearerToken := t₁} env)
      (installCommand b {flags with ucpBearerToken := t₂} env) := by
  unfold installCommand
  refine ((indist_discoverInstallationEnvironment b flags env h₁ h₂).fatalOnError _).bind
    fun c₁ c₂ h => ?_
  have hcfg : (processInstallationArguments c₁).withoutToken =
      (processInstallationArguments c₂).withoutToken := by
    rw [withoutToken_processInstallationArguments, withoutToken_processInstallationArguments, h]
  refine (Indist.of_eq (congrArg (fun c : Config => fatalOnError (fun e => "Invalid arguments; " ++ e)
    (ofExcept (validateInstallationArguments c.namespace_ c.pvcName c.pvName))) hcfg)).bind
    fun _ _ _ => .ite (.of_eq (congrArg (fun c : Config => do
      fatalOnError (fun e => "YAML generation failed; " ++ e) (generateYAMLFiles c env)
      log .info "Wrote installation YAML files." [("setupPath", .str c.paths.setupPath)]) hcfg))
    (.fatalOnError _ (((indist_installTrident _ env).trans (.of_eq (by rw [hcfg]))).trans
      (indist_installTrident _ env).symm))

end Discover

/-- Two runs that differ only in the token write different debug records: the RBAC
fields dump carries the token itself. -/
theorem ucp_token_reaches_debug_log :
    ¬ ∀ (b : Build) (flags : Flags) (env : Env) (t₁ t₂ : String), t₁ ≠ "" → t₂ ≠ "" →
      (installCommand b {flags with ucpBearerToken := t₁} env).result =
          (installCommand b {flags with ucpBearerToken := t₂} env).result ∧
        ∀ level, visibleAt level (installCommand b {flags with ucpBearerToken := t₁} env).events =
          visibleAt level (installCommand b {flags with ucpBearerToken := t₂} env).events := fun h => by
  have h := (h sampleBuild sampleFlags healthyEnv "token-a" "token-b" (by decide) (by decide)).2 .debug
  rw [(@installCommand_of_install sampleBuild {sampleFlags with ucpBearerToken := "token-a"} healthyEnv _
      rfl validateInstallationArguments_trident rfl).1,
    (@installCommand_of_install sampleBuild {sampleFlags with ucpBearerToken := "token-b"} healthyEnv _
      rfl validateInstallationArguments_trident rfl).1] at h
  exact absurd h (by decide)

/-- Two runs of the command that differ only in a non-empty UCP token return the same
result and log the same records, except that the debug record of the RBAC fields shows
each its own token.  A logger set above debug level writes the same records for both. -/
theorem install_command_hides_token_above_debug (b : Build) (flags : Flags) (env : Env)
    (t₁ t₂ : String) (h₁ : t₁ ≠ "") (h₂ : t₂ ≠ "") :
    (installCommand b {flags with ucpBearerToken := t₁} env).result =
        (installCommand b {flags with ucpBearerToken := t₂} env).result ∧
      (installCommand b {flags with ucpBearerToken := t₁} env).events.map Event.redactToken =
        (installCommand b {flags with ucpBearerToken := t₂} env).events.map Event.redactToken ∧
      ∀ level, level ≠ .debug →
        visibleAt level (installCommand b {flags with ucpBearerToken := t₁} env).events =
          visibleAt level (installCommand b {flags with ucpBearerToken := t₂} env).events := by
  obtain ⟨hevents, hresult⟩ := indist_installCommand b flags env h₁ h₂
  exact ⟨resultRel_eq_iff.mp hresult, hevents, fun level hlevel => by
    rw [← visibleAt_redactToken hlevel, hevents, visibleAt_redactToken hlevel]⟩

/-- Two UCP installs with different tokens, as an operator at info level sees them. -/
theorem ucp_install_hides_token_at_info :
    (installCommand sampleBuild {sampleFlags with ucpBearerToken := "token-a"} healthyEnv).result =
        (installCommand sampleBuild {sampleFlags with ucpBearerToken := "token-b"} healthyEnv).result ∧
      visibleAt .info (installCommand sampleBuild {sampleFlags with ucpBearerToken := "token-a"}
          healthyEnv).events =
        visibleAt .info (installCommand sampleBuild {sampleFlags with ucpBearerToken := "token-b"}
          healthyEnv).events :=
  have h := install_command_hides_token_above_debug sampleBuild sampleFlags healthyEnv "token-a" "token-b"
    (by decide) (by decide)
  ⟨h.1, h.2.2 .info (by decide)⟩

end TridentInstaller
