import TridentInstaller.Store
set_option autoImplicit false

/-!
# Re-runs create only what is absent

`Triple P x Q`: from a store satisfying `P` and `StoreInv`, a run whose probes answer
truthfully creates only absent objects (the volume and the CSI service apart), keeps the
invariant, and on success leaves a store satisfying `Q`.  Triples compose along binds.
-/

namespace TridentInstaller

open Run

/-! ## Triples over the store -/

/-- The objects a re-run may find present when it creates them. -/
def rerunExempt : List Obj := [.csiService, .volume]

/-- The objects listed are absent. -/
def Absent (A : List Obj) (s : Store) : Prop := ∀ o ∈ A, s o = false

/-- The invariant install runs keep: a daemonset exists only beside its statefulset. -/
def StoreInv (s : Store) : Prop := s .csiDaemonSet = true → s .csiStatefulSet = true

instance : DecidablePred StoreInv := fun _ => inferInstanceAs (Decidable (_ → _))

@[simp] theorem absent_nil (s : Store) : Absent [] s := fun _ h => by cases h

@[simp] theorem absent_cons {o : Obj} {A : List Obj} {s : Store} :
    Absent (o :: A) s ↔ s o = false ∧ Absent A s := by
  simp [Absent]

@[simp] theorem absent_append {A B : List Obj} {s : Store} :
    Absent (A ++ B) s ↔ Absent A s ∧ Absent B s := by
  simp [Absent, or_imp, forall_and]

theorem Absent.update_true {A : List Obj} {s : Store} {o : Obj} (h : Absent A s) (ho : o ∉ A) :
    Absent A (Function.update s o true) := by
  intro o' ho'
  rw [Function.update_noteq (by rintro rfl; exact ho ho')]
  exact h o' ho'

theorem Absent.update_false {A : List Obj} {s : Store} (o : Obj) (h : Absent A s) :
    Absent (o :: A) (Function.update s o false) := by
  intro o' ho'
  by_cases heq : o' = o
  · subst heq
    simp
  · rw [Function.update_noteq heq]
    exact h o' ((List.mem_cons.mp ho').resolve_left heq)

theorem storeInv_update_true {s : Store} {o : Obj} (hinv : StoreInv s)
    (hds : o = .csiDaemonSet → s .csiStatefulSet = true) : StoreInv (Function.update s o true) := by
  intro h
  by_cases hss : o = .csiStatefulSet
  · subst hss
    simp
  · rw [Function.update_noteq (Ne.symm hss)]
    by_cases hd : o = .csiDaemonSet
    · exact hds hd
    · exact hinv (by rwa [Function.update_noteq (Ne.symm hd)] at h)

theorem storeInv_update_false {s : Store} {o : Obj} (hinv : StoreInv s) (hss : o ≠ .csiStatefulSet) :
    StoreInv (Function.update s o false) := by
  intro h
  rw [Function.update_noteq (Ne.symm hss)]
  by_cases hd : o = .csiDaemonSet
  · subst hd
    simp at h
  · exact hinv (by rwa [Function.update_noteq (Ne.symm hd)] at h)

theorem applyAll_of_callsOf_eq_nil (s : Store) {evs : List Event} (h : callsOf evs = []) :
    s.applyAll evs = s := by
  induction evs generalizing s with
  | nil => rfl
  | cons ev evs ih =>
      cases ev with
      | call c err => simp at h
      | probe o b => exact ih s (by simpa using h)
      | log r => exact ih s (by simpa using h)
      | writeFile path m err => exact ih s (by simpa using h)
      | removeFile path err => exact ih s (by simpa using h)

theorem targetsAbsent_of_callsOf_eq_nil (exempt : List Obj) (s : Store) {evs : List Event}
    (h : callsOf evs = []) : TargetsAbsent exempt s evs := by
  induction evs generalizing s with
  | nil => trivial
  | cons ev evs ih =>
      cases ev with
      | call c err => simp at h
      | probe o b => exact ⟨trivial, ih s (by simpa using h)⟩
      | log r => exact ⟨trivial, ih s (by simpa using h)⟩
      | writeFile path m err => exact ⟨trivial, ih s (by simpa using h)⟩
      | removeFile path err => exact ⟨trivial, ih s (by simpa using h)⟩

section Triples

variable {α β : Type}

/-- From a store satisfying `P` and the invariant, a run whose probes are truthful
creates and allocates only absent objects (bar the exempt ones), keeps the invariant,
and on success leaves a store satisfying `Q`. -/
def Triple (P : Store → Prop) (x : Run α) (Q : α → Store → Prop) : Prop :=
  ∀ s, P s → StoreInv s → Along ProbeAgrees s x.events →
    TargetsAbsent rerunExempt s x.events ∧ StoreInv (s.applyAll x.events) ∧
      ∀ a, x.result = .ok a → Q a (s.applyAll x.events)

theorem Triple.bind {x : Run α} {f : α → Run β} {P : Store → Prop} {Q : α → Store → Prop}
    {R : β → Store → Prop} (hx : Triple P x Q) (hf : ∀ a, Triple (Q a) (f a) R) :
    Triple P (x >>= f) R := by
  intro s hP hinv hagree
  cases h : x.result with
  | error e =>
      rw [events_bind_error f h] at hagree ⊢
      obtain ⟨ht, hi, -⟩ := hx s hP hinv hagree
      exact ⟨ht, hi, fun a ha => by simp [result_bind_error f h] at ha⟩
  | ok a =>
      rw [events_bind_ok f h, along_append] at hagree
      rw [events_bind_ok f h, result_bind_ok f h, Store.applyAll_append]
      obtain ⟨ht, hi, hq⟩ := hx s hP hinv hagree.1
      obtain ⟨ht', hi', hr⟩ := hf a _ (hq a h) hi hagree.2
      exact ⟨(along_append ..).mpr ⟨ht, ht'⟩, hi', hr⟩

theorem Triple.conseq {x : Run α} {P P' : Store → Prop} {Q Q' : α → Store → Prop}
    (h : Triple P x Q) (hP : ∀ s, P' s → P s) (hQ : ∀ a s, Q a s → Q' a s) : Triple P' x Q' :=
  fun s hP' hinv hagree =>
    let ⟨ht, hi, hq⟩ := h s (hP s hP') hinv hagree
    ⟨ht, hi, fun a ha => hQ a _ (hq a ha)⟩

/-- A run without calls leaves the store as it is. -/
theorem Triple.of_noCalls {x : Run α} {P : Store → Prop} (h : NoCalls x) : Triple P x (fun _ => P) :=
  fun s hP hinv _ => by
    rw [applyAll_of_callsOf_eq_nil s h]
    exact ⟨targetsAbsent_of_callsOf_eq_nil _ s h, hinv, fun _ _ => hP⟩

theorem triple_fail {P : Store → Prop} {Q : α → Store → Prop} (msg : String) :
    Triple P (fail msg : Run α) Q :=
  fun _ _ hinv _ => ⟨trivial, hinv, fun _ h => by cases h⟩

theorem triple_pure {Q : α → Store → Prop} (a : α) : Triple (Q a) (Run.pure a) Q :=
  fun _ hQ hinv _ => ⟨trivial, hinv, fun _ h => by cases h; exact hQ⟩

theorem Triple.wrap {x : Run α} {P : Store → Prop} {Q : α → Store → Prop} (f : String → String)
    (h : Triple P x Q) : Triple P (Run.wrap f x) Q := by
  intro s hP hinv hagree
  obtain ⟨ht, hi, hq⟩ := h s hP hinv hagree
  refine ⟨ht, hi, fun a ha => hq a ?_⟩
  unfold Run.wrap at ha
  split at ha <;> simp_all

/-- A probe's answer is what the store holds. -/
theorem Triple.probe_bind {o : Obj} {b : Bool} {k : Unit → Run β} {P : Store → Prop}
    {Q : β → Store → Prop} (hk : Triple (fun s => P s ∧ s o = b) (k ()) Q) :
    Triple P (probe o b >>= k) Q := by
  intro s hP hinv hagree
  rw [Run.probe_bind] at hagree ⊢
  obtain ⟨ht, hi, hq⟩ := hk s ⟨hP, hagree.1⟩ hinv hagree.2
  exact ⟨⟨trivial, ht⟩, hi, hq⟩

/-- One call followed by no more: its target must be absent or exempt, and what follows
is judged on the store the call leaves. -/
theorem triple_invoke_bind {Q : β → Store → Prop} (c : Call) (err : Option String)
    {k : Option String → Run β} (hk : NoCalls (k err)) :
    Triple (fun s => (∀ o ∈ c.target, o ∈ rerunExempt ∨ s o = false) ∧
        (StoreInv s → StoreInv (s.apply (.call c err))) ∧
        ∀ a, (k err).result = .ok a → Q a (s.apply (.call c err)))
      (invoke c err >>= k) Q := by
  intro s ⟨htarget, hinv', hq⟩ hinv _
  rw [invoke_bind]
  simp only [Store.applyAll_cons, applyAll_of_callsOf_eq_nil _ hk]
  exact ⟨⟨htarget, targetsAbsent_of_callsOf_eq_nil _ _ hk⟩, hinv' hinv, hq⟩

end Triples

/-- An assertion that holds regardless of the invariant may use it. -/
theorem Triple.of_inv {α : Type} {x : Run α} {P P' : Store → Prop} {Q : α → Store → Prop}
    (h : Triple P' x Q) (hP : ∀ s, P s → StoreInv s → P' s) : Triple P x Q :=
  fun s hPs hinv hagree => h s (hP s hPs hinv) hinv hagree

theorem triple_pure_of {α : Type} {P : Store → Prop} {Q : α → Store → Prop} (a : α)
    (h : ∀ s, P s → Q a s) : Triple P (Run.pure a) Q :=
  (triple_pure a).conseq h fun _ _ h => h

theorem Triple.ite {α : Type} {c : Prop} [Decidable c] {x y : Run α} {P : Store → Prop}
    {Q : α → Store → Prop} (hx : c → Triple P x Q) (hy : ¬c → Triple P y Q) :
    Triple P (if c then x else y) Q := by
  split
  · exact hx ‹_›
  · exact hy ‹_›

theorem triple_stopIf {P : Store → Prop} (c : Bool) (msg : String) :
    Triple (fun s => c = false → P s) (stopIf c msg) (fun _ => P) := by
  cases c
  · exact triple_pure_of () fun _ h => h rfl
  · exact triple_fail _

theorem triple_onlyIf {A : List Obj} {o : Obj} {step : Run Unit} (c : Bool)
    (h : Triple (Absent (o :: A)) step (fun _ => Absent A)) :
    Triple (Absent ((if c then [o] else []) ++ A)) (onlyIf c step) (fun _ => Absent A) := by
  cases c
  · exact triple_pure_of () fun _ h => h
  · exact h

/-! ## Single calls -/

section Calls

variable {β : Type}

/-- A call that neither creates, allocates nor deletes leaves the store alone. -/
theorem triple_invoke_untargeted {P : Store → Prop} {k : Option String → Run β} (c : Call)
    (err : Option String) (ht : c.target = none) (happ : ∀ s : Store, s.apply (.call c err) = s)
    (hk : NoCalls (k err)) : Triple P (invoke c err >>= k) (fun _ => P) :=
  (triple_invoke_bind c err hk).conseq
    (fun s hP => ⟨by simp [ht], fun h => (happ s).symm ▸ h, fun _ _ => (happ s).symm ▸ hP⟩)
    fun _ _ h => h

/-- A create of an object known absent, whose run goes on only if it succeeded. -/
theorem triple_invoke_create {B : List Obj} {k : Option String → Run β} (o : Obj) (body : Body)
    (err : Option String) (ho : o ∉ B) (hds : o ≠ .csiDaemonSet) (hk : NoCalls (k err))
    (hok : ∀ b, (k err).result = .ok b → err = none) :
    Triple (Absent (o :: B)) (invoke (.createObject o body) err >>= k) (fun _ => Absent B) := by
  refine (triple_invoke_bind _ err hk).conseq (fun s hs => ⟨?_, fun hinv => ?_, fun b hb => ?_⟩)
    fun _ _ h => h
  · rintro _ ⟨⟩
    exact .inr (absent_cons.mp hs).1
  · cases err
    · exact storeInv_update_true hinv fun h => absurd h hds
    · exact hinv
  · obtain rfl := hok b hb
    exact (absent_cons.mp hs).2.update_true ho

theorem eq_none_of_result_check {err : Option String} {wrap : String → String} {u : Unit}
    (h : (check err wrap).result = .ok u) : err = none := by
  cases err <;> simp_all

theorem eq_none_of_result_check_bind {err : Option String} {wrap : String → String}
    {f : Unit → Run β} {b : β} (h : (check err wrap >>= f).result = .ok b) : err = none := by
  cases err <;> simp_all

end Calls

/-! ## The create block -/

section CreateBlock

variable {cfg : Config} {env : Env} {o : Obj} {path : String}
  {validation : Option (String × Except String Unit)} {m : Manifest}
  {renderedFields : List (String × Value)} {failure created : String}

/-- The create block in weakest-precondition form: the object is exempt or absent, a
daemonset has its statefulset, and `Q` holds once the object exists. -/
theorem triple_createObjectFromFileOrYAML {Q : Unit → Store → Prop} :
    Triple (fun s => (o ∈ rerunExempt ∨ s o = false) ∧ (o = .csiDaemonSet → s .csiStatefulSet = true) ∧
        Q () (Function.update s o true))
      (createObjectFromFileOrYAML cfg env o path validation m renderedFields failure created) Q := by
  intro s ⟨htarget, hds, hq⟩ hinv _
  by_cases hv : validationFails cfg env path validation
  · obtain ⟨hev, e, he⟩ := createObjectFromFileOrYAML_of_validationFails cfg env o path validation m
      renderedFields failure created hv
    rw [hev, he]
    exact ⟨trivial, hinv, fun _ h => by cases h⟩
  · rw [createObjectFromFileOrYAML_of_not_validationFails cfg env o path validation m renderedFields
      failure created hv]
    cases env.create o with
    | none =>
        exact ⟨⟨by rintro _ ⟨⟩; exact htarget, trivial, trivial⟩, storeInv_update_true hinv hds,
          fun _ _ => hq⟩
    | some e => exact ⟨⟨by rintro _ ⟨⟩; exact htarget, trivial⟩, hinv, fun _ h => by cases h⟩

/-- The create block on an object known absent takes it off the list. -/
theorem triple_create_absent {A : List Obj} (ho : o ∉ A) (hds : o ≠ .csiDaemonSet) :
    Triple (Absent (o :: A))
      (createObjectFromFileOrYAML cfg env o path validation m renderedFields failure created)
      (fun _ => Absent A) :=
  triple_createObjectFromFileOrYAML.conseq
    (fun _ hs => ⟨.inr (absent_cons.mp hs).1, fun h => absurd h hds, (absent_cons.mp hs).2.update_true ho⟩)
    fun _ _ h => h

end CreateBlock

/-! ## The RBAC teardown and creation -/

/-- The RBAC objects of a mode, in the order `createRBACObjects` creates them. -/
def rbacObjects (native : Bool) : List Obj :=
  if native then [.serviceAccount, .clusterRole, .clusterRoleBinding] else [.serviceAccount]

section RBAC

variable (cfg : Config) (env : Env)

/-- A best-effort deletion: when it succeeds its object is absent. -/
theorem triple_bestEffort_delete {B : List Obj} (o : Obj) (m : Manifest) (err : Option String)
    (failed done : String) (level : Level) (hss : o ≠ .csiStatefulSet) :
    Triple (Absent B) (bestEffort (.deleteObjectByYAML o m) err failed done level)
      (fun failed => Absent ((if failed then [] else [o]) ++ B)) := by
  intro s hB hinv _
  cases err with
  | none =>
      exact ⟨⟨by rintro _ ⟨⟩, trivial, trivial⟩, storeInv_update_false hinv hss,
        fun _ h => by cases h; exact hB.update_false o⟩
  | some e => exact ⟨⟨by rintro _ ⟨⟩, trivial, trivial⟩, hinv, fun _ h => by cases h; exact hB⟩

theorem triple_ucpBestEffort {P : Store → Prop} (c : Call) (answer : Except String Bool)
    (failed done field : String) (ht : c.target = none)
    (happ : ∀ (s : Store) err, s.apply (.call c err) = s) :
    Triple P (ucpBestEffort c answer failed done field) (fun _ => P) := by
  cases answer
  · exact triple_invoke_untargeted _ _ ht (happ · _) (noCalls_log ..)
  · exact triple_invoke_untargeted _ _ ht (happ · _) (noCalls_log ..)

theorem triple_ucpCreateStep {P : Store → Prop} (c : Call) (answer : Except String Bool)
    (failure done field : String) (ht : c.target = none)
    (happ : ∀ (s : Store) err, s.apply (.call c err) = s) :
    Triple P (ucpCreateStep c answer failure done field) (fun _ => P) := by
  cases answer
  · exact triple_invoke_untargeted _ _ ht (happ · _) (noCalls_fail _)
  · exact triple_invoke_untargeted _ _ ht (happ · _) (noCalls_log ..)

/-- The teardown keeps absent what was, and when nothing failed the RBAC objects of the
mode are absent too. -/
theorem triple_removeRBACObjects (logLevel : Level) (A : List Obj) :
    Triple (Absent A) (removeRBACObjects cfg env logLevel)
      (fun failed s => failed = false → Absent (rbacObjects cfg.useKubernetesRBAC ++ A) s) := by
  unfold removeRBACObjects
  refine Triple.bind (Q := fun rb => Absent ((if rb || !cfg.useKubernetesRBAC then [] else
    [.clusterRoleBinding, .clusterRole]) ++ A)) (Triple.ite (fun h => ?_) fun h => ?_) fun rb => ?_
  · refine (triple_bestEffort_delete _ _ _ _ _ _ (by decide)).bind fun b1 =>
      (triple_bestEffort_delete _ _ _ _ _ _ (by decide)).bind fun b2 => triple_pure_of _ fun s hs => ?_
    cases b1 <;> cases b2 <;> simp_all
  · exact (triple_ucpBestEffort _ _ _ _ _ (by rfl) fun _ _ => by rfl).bind fun _ =>
      (triple_ucpBestEffort _ _ _ _ _ (by rfl) fun _ _ => by rfl).bind fun _ =>
      triple_pure_of _ fun s hs => by simp_all
  · refine (triple_bestEffort_delete _ _ _ _ _ _ (by decide)).bind fun b3 =>
      (Triple.ite (fun _ => triple_invoke_untargeted _ _ (by rfl) (fun _ => by rfl)
        (by cases env.removeTridentUserFromOpenShiftSCC <;> rfl))
        fun _ => triple_pure_of false fun _ h => h).bind fun b4 =>
      triple_pure_of _ fun s hs hr => ?_
    simp only [Bool.or_eq_false_iff] at hr
    obtain ⟨⟨rfl, rfl⟩, -⟩ := hr
    unfold rbacObjects
    cases h : cfg.useKubernetesRBAC <;> simp_all

/-- The RBAC creation takes the mode's objects off the list. -/
theorem triple_createRBACObjects {A : List Obj}
    (hA : ∀ o ∈ rbacObjects cfg.useKubernetesRBAC, o ∉ A) :
    Triple (Absent (rbacObjects cfg.useKubernetesRBAC ++ A)) (createRBACObjects cfg env)
      (fun _ => Absent A) := by
  unfold createRBACObjects
  unfold rbacObjects at hA ⊢
  revert hA
  cases cfg.useKubernetesRBAC <;> intro hA
  · simp only [Bool.false_eq_true, ↓reduceIte, List.mem_singleton, forall_eq] at hA
    exact (triple_create_absent hA (by decide)).bind fun _ =>
      (triple_ucpCreateStep _ _ _ _ _ (by rfl) fun _ _ => by rfl).bind fun _ =>
      triple_ucpCreateStep _ _ _ _ _ (by rfl) fun _ _ => by rfl
  · simp only [↓reduceIte, List.mem_cons, List.not_mem_nil, or_false, forall_eq_or_imp,
      forall_eq] at hA
    exact (triple_create_absent (by simp [hA]) (by decide)).bind fun _ =>
      (triple_create_absent (by simp [hA]) (by decide)).bind fun _ =>
      (triple_create_absent hA.2.2 (by decide)).bind fun _ =>
      Triple.ite (fun _ => triple_invoke_untargeted _ _ (by rfl) (fun _ => by rfl)
        (.bind (noCalls_check ..) fun _ => noCalls_log ..)) fun _ => triple_pure_of () fun _ h => h

end RBAC

/-! ## The PV and the workloads -/

section Volume

variable (cfg : Config) (env : Env)

theorem triple_addVolume {B : List Obj} (config : VolumeConfig) (pool : String)
    (hv : .volume ∉ B) : Triple (Absent B) (addVolume env config pool) (fun _ => Absent B) := by
  unfold addVolume
  split
  · exact (triple_invoke_bind (k := fun _ => Run.pure _) (.addVolume config pool) none
      (noCalls_pure _)).conseq
      (fun _ hB => ⟨by rintro _ ⟨⟩; exact .inl (by decide),
        fun hinv => storeInv_update_true hinv fun h => absurd h (by decide),
        fun _ _ => hB.update_true hv⟩) fun _ _ h => h
  · exact (triple_invoke_bind (k := fun _ => fail _) (.addVolume config pool) (some _)
      (noCalls_fail _)).conseq
      (fun _ _ => ⟨by rintro _ ⟨⟩; exact .inl (by decide), id, fun _ h => by cases h⟩)
      fun _ _ h => h

/-- The CHAP secret is created only after its probe said it is absent. -/
theorem triple_createSecretUnlessExists {B : List Obj} (v : Volume) (secretName : String)
    (secretExists : Bool) (hs : .chapSecret ∉ B) :
    Triple (fun s => Absent B s ∧ s .chapSecret = secretExists)
      (createSecretUnlessExists env v secretName secretExists) (fun _ => Absent B) := by
  unfold createSecretUnlessExists
  cases secretExists
  · refine (Triple.of_noCalls (noCalls_log ..)).bind fun _ =>
      (triple_invoke_create _ _ _ hs (by decide) (.bind (noCalls_check ..) fun _ => noCalls_log ..)
        fun _ h => eq_none_of_result_check_bind h).conseq (fun _ h => ?_) fun _ _ h => h
    exact absent_cons.mpr ⟨h.2, h.1⟩
  · exact (Triple.of_noCalls (noCalls_log ..)).conseq (fun _ h => h) fun _ _ h => h.1

theorem triple_createCHAPSecret {B : List Obj} (v : Volume) (hs : .chapSecret ∉ B) :
    Triple (Absent B) (createCHAPSecret env v) (fun _ => Absent B) :=
  (Triple.of_noCalls (noCalls_log ..)).bind fun _ => (Triple.of_noCalls (noCalls_expect ..)).bind
    fun b => Triple.probe_bind <| (triple_createSecretUnlessExists env v _ b hs).bind fun _ =>
      triple_pure_of _ fun _ h => h

theorem triple_pvManifest {B : List Obj} (v : Volume) (hs : .chapSecret ∉ B) :
    Triple (Absent B) (pvManifest cfg env v) (fun _ => Absent B) :=
  .ite (fun _ => triple_pure_of _ fun _ h => h) fun _ => .ite (fun _ => .ite (fun _ =>
    .ite (fun _ => triple_fail _) fun _ =>
      (triple_createCHAPSecret env v hs).bind fun _ => triple_pure_of _ fun _ h => h)
    fun _ => triple_pure_of _ fun _ h => h) fun _ => triple_fail _

theorem triple_createPV {A : List Obj} (sb : Backend)
    (hA : .pv ∉ A ∧ .volume ∉ A ∧ .chapSecret ∉ A) :
    Triple (Absent (.pv :: A)) (createPV cfg env sb) (fun _ => Absent A) := by
  unfold createPV
  refine Triple.ite (fun _ => triple_fail _) fun _ => ?_
  exact (triple_addVolume env _ _ (by simp [hA])).bind fun _ =>
    (triple_pvManifest cfg env _ (by simp [hA])).bind fun _ =>
    triple_invoke_create _ _ _ hA.1 (by decide) (noCalls_check ..) fun _ h => eq_none_of_result_check h

theorem triple_createPVIfNeeded {A : List Obj} (sb? : Option Backend)
    (hA : .pv ∉ A ∧ .volume ∉ A ∧ .chapSecret ∉ A) :
    Triple (Absent ((if sb?.isSome then [.pv] else []) ++ A)) (createPVIfNeeded cfg env sb?)
      (fun _ => Absent A) := by
  cases sb? with
  | none => exact triple_pure_of () fun _ h => h
  | some sb =>
      exact ((triple_createPV cfg env sb hA).wrap _).bind fun _ => Triple.of_noCalls (noCalls_log ..)

/-- The workloads the property covers: the CSI service is exempt. -/
def workloadObjects (csi : Bool) : List Obj :=
  if csi then [.csiStatefulSet, .csiDaemonSet] else [.deployment]

/-- The statefulset is created before the daemonset, so the invariant survives. -/
theorem triple_createWorkloads :
    Triple (Absent (workloadObjects cfg.csi)) (createWorkloads cfg env) (fun _ _ => True) := by
  unfold createWorkloads workloadObjects
  cases cfg.csi
  · exact (triple_create_absent (A := []) (by simp) (by decide)).conseq (fun _ h => h) fun _ _ _ => trivial
  · refine (triple_createObjectFromFileOrYAML (Q := fun _ => Absent [.csiStatefulSet, .csiDaemonSet])).conseq
      (fun _ h => ⟨.inl (by decide), fun h => absurd h (by decide), h.update_true (by decide)⟩)
      (fun _ _ h => h) |>.bind fun _ => ?_
    refine (triple_createObjectFromFileOrYAML
      (Q := fun _ s => Absent [.csiDaemonSet] s ∧ s .csiStatefulSet = true)).conseq
      (fun _ h => ⟨.inr (absent_cons.mp h).1, fun h => absurd h (by decide),
        (absent_cons.mp h).2.update_true (by decide), by simp⟩) (fun _ _ h => h) |>.bind fun _ => ?_
    exact (triple_createObjectFromFileOrYAML (Q := fun _ _ => True)).conseq
      (fun _ h => ⟨.inr (absent_cons.mp h.1).1, fun _ => h.2, trivial⟩) fun _ _ _ => trivial

end Volume

/-! ## What the pre-checks learn from their probes -/

section PreChecks

variable (cfg : Config) (env : Env) {P : Store → Prop}

/-- The object whose presence the already-installed check reports. -/
def installedObject (csi : Bool) : Obj := if csi then .csiStatefulSet else .deployment

theorem triple_checkAlreadyInstalled :
    Triple P (checkAlreadyInstalled cfg env)
      (fun _ s => P s ∧ s (installedObject cfg.csi) = false) := by
  unfold checkAlreadyInstalled
  refine Triple.ite (fun h => ?_) fun h => ?_
  · rw [show installedObject cfg.csi = .csiStatefulSet by simp [installedObject, h]]
    exact (Triple.of_noCalls (noCalls_stopIf ..)).bind fun _ =>
      (Triple.of_noCalls (noCalls_expect ..)).bind fun ⟨installed, _⟩ => Triple.probe_bind <|
      ((triple_stopIf installed _).bind fun _ => Triple.of_noCalls (noCalls_log ..)).conseq
        (fun _ h hi => hi ▸ h) fun _ _ h => h
  · rw [show installedObject cfg.csi = .deployment by simp [installedObject, h]]
    exact (Triple.of_noCalls (noCalls_log ..)).bind fun _ =>
      (Triple.of_noCalls (noCalls_expect ..)).bind fun ⟨installed, _⟩ => Triple.probe_bind <|
      (triple_stopIf installed _).conseq (fun _ h hi => hi ▸ h) fun _ _ h => h

theorem triple_checkNamespace :
    Triple P (checkNamespace cfg env) (fun b s => P s ∧ s .namespace_ = b) :=
  (Triple.of_noCalls (noCalls_expect ..)).bind fun b => Triple.probe_bind <|
    (Triple.of_noCalls (noCalls_log ..)).bind fun _ => triple_pure_of b fun _ h => h

theorem triple_checkPVC : Triple P (checkPVC cfg env) (fun b s => P s ∧ s .pvc = b) :=
  (Triple.of_noCalls (noCalls_expect ..)).bind fun b => Triple.probe_bind <|
    (Triple.of_noCalls (.ite (noCalls_checkExistingPVC cfg env) (noCalls_log ..))).bind fun _ =>
      triple_pure_of b fun _ h => h

theorem triple_checkPV (requested : Quantity) :
    Triple P (checkPV cfg env requested) (fun b s => P s ∧ s .pv = b) :=
  (Triple.of_noCalls (noCalls_expect ..)).bind fun b => Triple.probe_bind <|
    (Triple.of_noCalls (.ite (noCalls_checkExistingPV cfg env requested) (noCalls_log ..))).bind
      fun _ => triple_pure_of b fun _ h => h

theorem triple_loadStorageDriverIfNeeded (pvExists : Bool) :
    Triple P (loadStorageDriverIfNeeded cfg env pvExists)
      (fun r s => P s ∧ r.isSome = !pvExists) := by
  unfold loadStorageDriverIfNeeded
  cases pvExists
  · exact (Triple.of_noCalls (noCalls_loadStorageDriver cfg env)).bind fun _ =>
      triple_pure_of _ fun _ h => ⟨h, rfl⟩
  · exact (Triple.of_noCalls (noCalls_log ..)).bind fun _ => triple_pure_of _ fun _ h => ⟨h, rfl⟩

/-- What the pre-checks learn of the store: the installed object is absent, and the
namespace, the PVC and the PV are as probed (the PV absent exactly when a backend was
loaded for it). -/
def ProbedStore (p : Probed) (s : Store) : Prop :=
  s (installedObject cfg.csi) = false ∧ s .namespace_ = p.namespaceExists ∧
    s .pvc = p.pvcExists ∧ s .pv = !p.storageBackend.isSome

theorem triple_preChecks :
    Triple (fun _ => True) (preChecks cfg env) (fun p => ProbedStore cfg p) :=
  (Triple.of_noCalls (noCalls_expect ..)).bind fun requested =>
    (Triple.of_noCalls (noCalls_log ..)).bind fun _ =>
    (triple_checkAlreadyInstalled cfg env).bind fun _ => (triple_checkNamespace cfg env).bind fun _ =>
    (triple_checkPVC cfg env).bind fun _ => (triple_checkPV cfg env requested).bind fun _ =>
    (triple_loadStorageDriverIfNeeded cfg env _).bind fun _ =>
    triple_pure_of _ fun _ ⟨⟨⟨⟨⟨_, hi⟩, hns⟩, hpvc⟩, hpv⟩, hsb⟩ => ⟨hi, hns, hpvc, by simp [hpv, hsb]⟩

end PreChecks

/-! ## A whole run -/

section Install

variable (cfg : Config) (env : Env)

/-- What the mutation phase may take as absent, in the order it creates it: what the
pre-checks probed absent, and the workloads. -/
def installAbsent (p : Probed) : List Obj :=
  (if !p.namespaceExists then [.namespace_] else []) ++ ((if !p.pvcExists then [.pvc] else []) ++
    ((if p.storageBackend.isSome then [.pv] else []) ++ workloadObjects cfg.csi))

/-- The daemonset is absent because the statefulset the pre-checks probed is. -/
theorem absent_installAbsent {p : Probed} {s : Store} (h : ProbedStore cfg p s)
    (hinv : StoreInv s) : Absent (installAbsent cfg p) s := by
  obtain ⟨hi, hns, hpvc, hpv⟩ := h
  simp only [installAbsent, absent_append]
  refine ⟨?_, ?_, ?_, ?_⟩
  · cases hb : p.namespaceExists <;> simp_all
  · cases hb : p.pvcExists <;> simp_all
  · cases hb : p.storageBackend.isSome <;> simp_all
  · unfold workloadObjects
    unfold installedObject at hi
    unfold StoreInv at hinv
    cases hc : cfg.csi <;> simp_all

theorem triple_install (p : Probed) :
    Triple (Absent (installAbsent cfg p)) (install cfg env p) (fun _ _ => True) := by
  unfold install installAbsent
  exact (Triple.of_noCalls (noCalls_log ..)).bind fun _ =>
    (triple_onlyIf _ (triple_create_absent (by cases cfg.csi <;> simp [workloadObjects])
      (by decide))).bind fun _ =>
    (triple_removeRBACObjects cfg env .debug _).bind fun r =>
    (triple_stopIf r _).bind fun _ =>
    (triple_createRBACObjects cfg env (by
      cases cfg.csi <;> cases cfg.useKubernetesRBAC <;> simp [workloadObjects, rbacObjects])).bind
      fun _ =>
    (triple_onlyIf _ (triple_create_absent (by cases cfg.csi <;> simp [workloadObjects])
      (by decide))).bind fun _ =>
    (triple_createPVIfNeeded cfg env _ (by cases cfg.csi <;> simp [workloadObjects])).bind fun _ =>
    (Triple.of_noCalls (noCalls_waitForPVCBound cfg env)).bind fun _ =>
    (triple_createWorkloads cfg env).bind fun _ =>
    (Triple.of_noCalls (noCalls_waitForTridentPod cfg env)).bind fun pod =>
    (Triple.of_noCalls (noCalls_wrap _ (noCalls_waitForRESTInterface cfg env pod.name))).bind fun _ =>
    Triple.of_noCalls (noCalls_log ..)

/-- One install run: the pre-checks establish what the mutation phase needs absent. -/
theorem triple_installTrident :
    Triple (fun _ => True) (installTrident cfg env) (fun _ _ => True) := by
  unfold installTrident
  exact (triple_preChecks cfg env).bind fun p => Triple.ite
    (fun _ => (Triple.of_noCalls (noCalls_log ..)).conseq (fun _ h => h) fun _ _ _ => trivial)
    fun _ => (triple_install cfg env p).of_inv fun _ h hinv => absent_installAbsent cfg h hinv

end Install

/-! ## Every session -/

/-- Over every session of install runs with one configuration, started from a store in
which no daemonset stands without its statefulset, and answered by probes that read the
store, every create and allocation targets an absent object, the volume and the CSI
service apart. -/
theorem install_session_targets_absent (cfg : Config) (s : Store) (hs : StoreInv s)
    (envs : List Env) (h : EveryRun (fun s evs => Along ProbeAgrees s evs) s (installTraces cfg envs)) :
    EveryRun (TargetsAbsent [.csiService, .volume]) s (installTraces cfg envs) := by
  induction envs generalizing s with
  | nil => trivial
  | cons env envs ih =>
      obtain ⟨hagree, hrest⟩ := h
      obtain ⟨ht, hinv, -⟩ := triple_installTrident cfg env s trivial hs hagree
      exact ⟨ht, ih _ hinv hrest⟩

/-- The session of `rerun_after_failed_pv_reallocates_volume`, from the empty store. -/
theorem rerun_after_failed_pv_targets_absent :
    StoreInv Store.empty ∧
      EveryRun (fun s evs => Along ProbeAgrees s evs) Store.empty
        (installTraces sampleConfig [firstRunEnv, secondRunEnv]) ∧
      EveryRun (TargetsAbsent [.csiService, .volume]) Store.empty
        (installTraces sampleConfig [firstRunEnv, secondRunEnv]) :=
  have hs : StoreInv Store.empty := by decide
  have h : EveryRun (fun s evs => Along ProbeAgrees s evs) Store.empty
      (installTraces sampleConfig [firstRunEnv, secondRunEnv]) := by decide
  ⟨hs, h, install_session_targets_absent sampleConfig Store.empty hs _ h⟩

end TridentInstaller
