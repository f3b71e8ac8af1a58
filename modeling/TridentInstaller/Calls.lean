import TridentInstaller.Install
set_option autoImplicit false

/-!
# The calls a run makes

`callsOf` reads a trace's mutating calls, with the collaborators' answers.  `NoCalls`
holds of the pre-checks and the waits: they ask and log, and change nothing.
-/

namespace TridentInstaller

open Run

/-! ## Calls in a trace -/

/-- The mutating call an event records, with the collaborator's answer. -/
def Event.asCall : Event → Option (Call × Option String)
  | .call c err => some (c, err)
  | _ => none

/-- The mutating calls of a trace, in order, with their answers. -/
def callsOf (evs : List Event) : List (Call × Option String) := evs.filterMap Event.asCall

@[simp] theorem callsOf_nil : callsOf [] = [] := rfl

@[simp] theorem callsOf_append (l₁ l₂ : List Event) :
    callsOf (l₁ ++ l₂) = callsOf l₁ ++ callsOf l₂ :=
  List.filterMap_append ..

@[simp] theorem callsOf_cons_call (c : Call) (err : Option String) (evs : List Event) :
    callsOf (.call c err :: evs) = (c, err) :: callsOf evs := rfl

@[simp] theorem callsOf_cons_probe (o : Obj) (present : Bool) (evs : List Event) :
    callsOf (.probe o present :: evs) = callsOf evs := rfl

@[simp] theorem callsOf_cons_log (r : LogRecord) (evs : List Event) :
    callsOf (.log r :: evs) = callsOf evs := rfl

@[simp] theorem callsOf_cons_writeFile (path : String) (m : Manifest) (err : Option String)
    (evs : List Event) : callsOf (.writeFile path m err :: evs) = callsOf evs := rfl

@[simp] theorem callsOf_cons_removeFile (path : String) (err : Option String) (evs : List Event) :
    callsOf (.removeFile path err :: evs) = callsOf evs := rfl

/-- A trace makes at least one mutating call. -/
def MakesCall (evs : List Event) : Prop := callsOf evs ≠ []

instance (evs : List Event) : Decidable (MakesCall evs) := inferInstanceAs (Decidable (_ ≠ _))

/-- A run makes no mutating call. -/
def NoCalls {α : Type} (x : Run α) : Prop := callsOf x.events = []

/-! ## Runs without calls -/

section NoCallsRules

variable {α β : Type}

theorem NoCalls.bind {x : Run α} {f : α → Run β} (hx : NoCalls x) (hf : ∀ a, NoCalls (f a)) :
    NoCalls (x >>= f) := by
  unfold NoCalls at *
  cases h : x.result with
  | ok a => rw [events_bind_ok f h, callsOf_append, hx, hf a]; rfl
  | error e => rw [events_bind_error f h, hx]

theorem NoCalls.ite {c : Prop} [Decidable c] {x y : Run α} (hx : NoCalls x) (hy : NoCalls y) :
    NoCalls (if c then x else y) := by
  split <;> assumption

theorem noCalls_pure (a : α) : NoCalls (Run.pure a) := rfl

theorem noCalls_fail (msg : String) : NoCalls (fail msg : Run α) := rfl

theorem noCalls_log (level : Level) (msg : String) (fields : List (String × Value)) :
    NoCalls (log level msg fields) := rfl

theorem noCalls_probe (o : Obj) (present : Bool) : NoCalls (probe o present) := rfl

theorem noCalls_expect (answer : Except String α) (wrap : String → String) :
    NoCalls (expect answer wrap) := by
  cases answer <;> rfl

theorem noCalls_check (err : Option String) (wrap : String → String) : NoCalls (check err wrap) := by
  cases err <;> rfl

theorem noCalls_onlyIf (c : Bool) {step : Run Unit} (h : NoCalls step) : NoCalls (onlyIf c step) := by
  cases c
  · rfl
  · exact h

theorem noCalls_stopIf (c : Bool) (msg : String) : NoCalls (stopIf c msg) :=
  noCalls_onlyIf c (noCalls_fail msg)

theorem noCalls_ofExcept (answer : Except String α) : NoCalls (ofExcept answer) := rfl

theorem noCalls_wrap (f : String → String) {x : Run α} (h : NoCalls x) : NoCalls (wrap f x) := h

/-- The validator step of the create block only stops the block. -/
theorem noCalls_validateOverride (fromFile : Bool)
    (validation : Option (String × Except String Unit)) :
    NoCalls (validateOverride fromFile validation) := by
  unfold validateOverride
  split <;> rfl

/-- A retry loop only notifies. -/
theorem noCalls_retryNotify (op : Nat → Except String α) (notify : Nat → LogRecord) (i : Nat)
    (schedule : List Nat) : NoCalls (retryNotify op notify i schedule) := by
  refine List.filterMap_eq_nil_iff.mpr fun ev hev => ?_
  obtain ⟨d, -, rfl⟩ := retryNotify_events_logs op notify i schedule ev hev
  rfl

end NoCallsRules

/-! ## The parts of the installer that change nothing -/

section Quiet

variable (cfg : Config) (env : Env)

theorem noCalls_requireExists (st : Stat) (failure : String) :
    NoCalls (requireExists st failure) := by
  cases st <;> rfl

theorem noCalls_loadStorageDriver : NoCalls (loadStorageDriver cfg env) :=
  .bind (noCalls_requireExists ..) fun _ => .bind (noCalls_requireExists ..) fun _ =>
    .bind (noCalls_log ..) fun _ => .bind (noCalls_expect ..) fun _ =>
    .bind (noCalls_expect ..) fun _ => .bind (noCalls_log ..) fun _ => noCalls_pure _

theorem noCalls_checkAlreadyInstalled : NoCalls (checkAlreadyInstalled cfg env) := by
  unfold checkAlreadyInstalled
  split
  · exact .bind (noCalls_stopIf ..) fun _ => .bind (noCalls_expect ..) fun _ =>
      .bind (noCalls_probe ..) fun _ => .bind (noCalls_stopIf ..) fun _ => noCalls_log ..
  · exact .bind (noCalls_log ..) fun _ => .bind (noCalls_expect ..) fun _ =>
      .bind (noCalls_probe ..) fun _ => noCalls_stopIf ..

theorem noCalls_checkNamespace : NoCalls (checkNamespace cfg env) :=
  .bind (noCalls_expect ..) fun _ => .bind (noCalls_probe ..) fun _ =>
    .bind (noCalls_log ..) fun _ => noCalls_pure _

theorem noCalls_checkExistingPVC : NoCalls (checkExistingPVC cfg env) :=
  .bind (noCalls_expect ..) fun _ => .bind (noCalls_stopIf ..) fun _ =>
    .bind (noCalls_stopIf ..) fun _ => .bind (noCalls_stopIf ..) fun _ => noCalls_log ..

theorem noCalls_checkPVC : NoCalls (checkPVC cfg env) :=
  .bind (noCalls_expect ..) fun _ => .bind (noCalls_probe ..) fun _ =>
    .bind (.ite (noCalls_checkExistingPVC cfg env) (noCalls_log ..)) fun _ => noCalls_pure _

theorem noCalls_checkClaimRef (pv : PersistentVolume) : NoCalls (checkClaimRef cfg pv) := by
  unfold checkClaimRef
  split
  · exact noCalls_onlyIf _ (.bind (noCalls_stopIf ..) fun _ => noCalls_stopIf ..)
  · rfl

theorem noCalls_warnPVSize (requested : Quantity) (pv : PersistentVolume) :
    NoCalls (warnPVSize cfg requested pv) := by
  unfold warnPVSize
  split
  · rfl
  · exact noCalls_onlyIf _ (noCalls_log ..)

theorem noCalls_checkExistingPV (requested : Quantity) : NoCalls (checkExistingPV cfg env requested) :=
  .bind (noCalls_expect ..) fun pv => .bind (noCalls_stopIf ..) fun _ =>
    .bind (noCalls_stopIf ..) fun _ => .bind (noCalls_checkClaimRef cfg pv) fun _ =>
    .bind (noCalls_stopIf ..) fun _ => .bind (noCalls_warnPVSize cfg requested pv) fun _ =>
    noCalls_log ..

theorem noCalls_checkPV (requested : Quantity) : NoCalls (checkPV cfg env requested) :=
  .bind (noCalls_expect ..) fun _ => .bind (noCalls_probe ..) fun _ =>
    .bind (.ite (noCalls_checkExistingPV cfg env requested) (noCalls_log ..)) fun _ => noCalls_pure _

theorem noCalls_loadStorageDriverIfNeeded (pvExists : Bool) :
    NoCalls (loadStorageDriverIfNeeded cfg env pvExists) := by
  unfold loadStorageDriverIfNeeded
  split
  · exact .bind (noCalls_log ..) fun _ => noCalls_pure _
  · exact .bind (noCalls_loadStorageDriver cfg env) fun _ => noCalls_pure _

/-- The pre-check phase makes no mutating call. -/
theorem noCalls_preChecks : NoCalls (preChecks cfg env) :=
  .bind (noCalls_expect ..) fun requested => .bind (noCalls_log ..) fun _ =>
    .bind (noCalls_checkAlreadyInstalled cfg env) fun _ => .bind (noCalls_checkNamespace cfg env) fun _ =>
    .bind (noCalls_checkPVC cfg env) fun _ => .bind (noCalls_checkPV cfg env requested) fun pvExists =>
    .bind (noCalls_loadStorageDriverIfNeeded cfg env pvExists) fun _ => noCalls_pure _

theorem noCalls_waitForPVCBound : NoCalls (waitForPVCBound cfg env) := by
  unfold waitForPVCBound
  split
  · rfl
  · refine .bind (noCalls_log ..) fun _ => .bind (noCalls_retryNotify ..) fun r => ?_
    obtain ⟨_, _ | _⟩ := r <;> rfl

theorem noCalls_waitForTridentPod : NoCalls (waitForTridentPod cfg env) := by
  refine .bind (noCalls_log ..) fun _ => .bind (noCalls_retryNotify ..) fun r => ?_
  obtain ⟨_, _ | _⟩ := r <;> rfl

theorem noCalls_waitForRESTInterface (podName : String) :
    NoCalls (waitForRESTInterface cfg env podName) := by
  refine .bind (noCalls_log ..) fun _ => .bind (noCalls_retryNotify ..) fun r => ?_
  obtain ⟨_, _ | _⟩ := r <;> rfl

end Quiet

end TridentInstaller
