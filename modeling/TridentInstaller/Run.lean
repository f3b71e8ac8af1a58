import TridentInstaller.World
set_option autoImplicit false

/-!
# Runs

Installer code runs in `Run`: a computation that appends `Event`s and ends with a value
or with the error text Go would return.  Each function reads the `Env` it is given.
Proofs go through the bind lemmas (`events_bind_ok` and its twins), never through
`Run.bind` itself.
-/

namespace TridentInstaller

/-- A run of installer code: the events it produced, in order, and its value or
the error it returned. -/
structure Run (α : Type) where
  events : List Event
  result : Except String α

/-- Results of concrete runs are compared by `decide`. -/
instance instDecidableEqResult {ε α : Type} [DecidableEq ε] [DecidableEq α] :
    DecidableEq (Except ε α)
  | .ok a, .ok b => decidable_of_iff (a = b) (by simp)
  | .error a, .error b => decidable_of_iff (a = b) (by simp)
  | .ok _, .error _ => isFalse (by simp)
  | .error _, .ok _ => isFalse (by simp)

namespace Run

variable {α β : Type}

/-- A run that does nothing and returns `a`. -/
def pure (a : α) : Run α := ⟨[], .ok a⟩

/-- Sequencing: the second computation runs only if the first returned a value. -/
def bind (x : Run α) (f : α → Run β) : Run β :=
  match x.result with
  | .ok a => ⟨x.events ++ (f a).events, (f a).result⟩
  | .error e => ⟨x.events, .error e⟩

instance : Monad Run where
  pure := Run.pure
  bind := Run.bind

/-- Append one event. -/
def emit (e : Event) : Run Unit := ⟨[e], .ok ()⟩

/-- Return an error; Go's `return fmt.Errorf(...)`. -/
def fail (msg : String) : Run α := ⟨[], .error msg⟩

/-- Write a log record. -/
def log (level : Level) (msg : String) (fields : List (String × Value)) : Run Unit :=
  emit (.log ⟨level, msg, fields⟩)

/-- Make a mutating call; `err` is the collaborator's answer, which the caller inspects. -/
def invoke (c : Call) (err : Option String) : Run (Option String) := ⟨[.call c err], .ok err⟩

/-- Record an existence probe that answered. -/
def probe (o : Obj) (present : Bool) : Run Unit := emit (.probe o present)

/-- Return an error value if there is one: `if err != nil { return wrap(err) }`. -/
def check (err : Option String) (wrap : String → String) : Run Unit :=
  match err with
  | some e => fail (wrap e)
  | none => Run.pure ()

/-- Take the value of a fallible answer, or return its error wrapped. -/
def expect (answer : Except String α) (wrap : String → String) : Run α :=
  match answer with
  | .ok a => Run.pure a
  | .error e => fail (wrap e)

/-- `if cond { step }`. -/
def onlyIf (cond : Bool) (step : Run Unit) : Run Unit := if cond then step else Run.pure ()

/-- `if cond { return errors.New(msg) }`. -/
def stopIf (cond : Bool) (msg : String) : Run Unit := onlyIf cond (fail msg)

/-- Wrap the error of a run, as a caller's `fmt.Errorf("...; %v", err)` does. -/
def wrap (f : String → String) (x : Run α) : Run α :=
  ⟨x.events, match x.result with
    | .ok a => .ok a
    | .error e => .error (f e)⟩

/-- Turn a fallible answer into a run with no events. -/
def ofExcept (answer : Except String α) : Run α := ⟨[], answer⟩

@[simp] theorem pure_eq (a : α) : (Pure.pure a : Run α) = ⟨[], .ok a⟩ := rfl

@[simp] theorem events_bind_ok {x : Run α} {a : α} (f : α → Run β) (h : x.result = .ok a) :
    (x >>= f).events = x.events ++ (f a).events := by
  show (Run.bind x f).events = _
  unfold Run.bind
  rw [h]

@[simp] theorem result_bind_ok {x : Run α} {a : α} (f : α → Run β) (h : x.result = .ok a) :
    (x >>= f).result = (f a).result := by
  show (Run.bind x f).result = _
  unfold Run.bind
  rw [h]

@[simp] theorem events_bind_error {x : Run α} {e : String} (f : α → Run β)
    (h : x.result = .error e) : (x >>= f).events = x.events := by
  show (Run.bind x f).events = _
  unfold Run.bind
  rw [h]

@[simp] theorem result_bind_error {x : Run α} {e : String} (f : α → Run β)
    (h : x.result = .error e) : (x >>= f).result = .error e := by
  show (Run.bind x f).result = _
  unfold Run.bind
  rw [h]

/-- A bind succeeds exactly when both of its halves do. -/
theorem result_bind_eq_ok {x : Run α} {f : α → Run β} {b : β} :
    (x >>= f).result = .ok b ↔ ∃ a, x.result = .ok a ∧ (f a).result = .ok b := by
  show (Run.bind x f).result = _ ↔ _
  unfold Run.bind
  cases x.result <;> simp

/-- The bind of a run that made no events and returned a value. -/
@[simp] theorem mk_ok_bind (a : α) (f : α → Run β) :
    (⟨[], .ok a⟩ : Run α) >>= f = f a := rfl

/-- The bind of a run that returned an error. -/
@[simp] theorem mk_error_bind (evs : List Event) (e : String) (f : α → Run β) :
    (⟨evs, .error e⟩ : Run α) >>= f = ⟨evs, .error e⟩ := rfl

/-- The bind of a run that made events and returned a value. -/
theorem mk_ok_bind_events (evs : List Event) (a : α) (f : α → Run β) :
    (⟨evs, .ok a⟩ : Run α) >>= f = ⟨evs ++ (f a).events, (f a).result⟩ := rfl

/-- Binds reassociate: a block of steps may be read one step at a time. -/
theorem bind_assoc {γ : Type} (x : Run α) (f : α → Run β) (g : β → Run γ) :
    x >>= f >>= g = x >>= fun a => f a >>= g := by
  show Run.bind (Run.bind x f) g = Run.bind x fun a => Run.bind (f a) g
  unfold Run.bind
  cases x.result with
  | error e => rfl
  | ok a => cases hf : (f a).result <;> simp [hf]

@[simp] theorem emit_bind (e : Event) (f : Unit → Run β) :
    emit e >>= f = ⟨e :: (f ()).events, (f ()).result⟩ := rfl

@[simp] theorem log_bind (level : Level) (msg : String) (fields : List (String × Value))
    (f : Unit → Run β) :
    log level msg fields >>= f = ⟨.log ⟨level, msg, fields⟩ :: (f ()).events, (f ()).result⟩ :=
  rfl

@[simp] theorem probe_bind (o : Obj) (present : Bool) (f : Unit → Run β) :
    probe o present >>= f = ⟨.probe o present :: (f ()).events, (f ()).result⟩ := rfl

@[simp] theorem invoke_bind (c : Call) (err : Option String) (f : Option String → Run β) :
    invoke c err >>= f = ⟨.call c err :: (f err).events, (f err).result⟩ := rfl

@[simp] theorem fail_bind (msg : String) (f : α → Run β) :
    (fail msg : Run α) >>= f = fail msg := rfl

@[simp] theorem check_none (wrap : String → String) : check none wrap = Run.pure () := rfl

@[simp] theorem check_some (e : String) (wrap : String → String) :
    check (some e) wrap = fail (wrap e) := rfl

@[simp] theorem expect_ok (a : α) (wrap : String → String) :
    expect (.ok a) wrap = Run.pure a := rfl

@[simp] theorem expect_error (e : String) (wrap : String → String) :
    (expect (.error e) wrap : Run α) = fail (wrap e) := rfl

@[simp] theorem events_fail (msg : String) : (fail msg : Run α).events = [] := rfl

@[simp] theorem result_fail (msg : String) : (fail msg : Run α).result = .error msg := rfl

@[simp] theorem events_pure (a : α) : (Run.pure a).events = [] := rfl

@[simp] theorem result_pure (a : α) : (Run.pure a).result = .ok a := rfl

@[simp] theorem pure_bind (a : α) (f : α → Run β) : Run.pure a >>= f = f a := rfl

@[simp] theorem onlyIf_true (step : Run Unit) : onlyIf true step = step := rfl

@[simp] theorem onlyIf_false (step : Run Unit) : onlyIf false step = Run.pure () := rfl

@[simp] theorem stopIf_true (msg : String) : stopIf true msg = fail msg := rfl

@[simp] theorem stopIf_false (msg : String) : stopIf false msg = Run.pure () := rfl

@[simp] theorem events_wrap (f : String → String) (x : Run α) : (wrap f x).events = x.events :=
  rfl

@[simp] theorem result_wrap_ok (f : String → String) {x : Run α} {a : α} (h : x.result = .ok a) :
    (wrap f x).result = .ok a := by
  simp [wrap, h]

@[simp] theorem result_wrap_error (f : String → String) {x : Run α} {e : String}
    (h : x.result = .error e) : (wrap f x).result = .error (f e) := by
  simp [wrap, h]

/-- The result of a sequence is read off the results of its parts. -/
theorem result_bind (x : Run α) (f : α → Run β) :
    (x >>= f).result = match x.result with
      | .ok a => (f a).result
      | .error e => .error e := by
  rcases x with ⟨evs, _ | _⟩ <;> rfl

theorem result_ite {c : Prop} [Decidable c] (x y : Run α) :
    (if c then x else y).result = if c then x.result else y.result := by
  split <;> rfl

/-- Wrapping changes only the text of an error: a wrapped run succeeds as the run does. -/
theorem result_wrap_eq_ok (f : String → String) {x : Run α} {a : α} :
    (wrap f x).result = .ok a ↔ x.result = .ok a := by
  cases hx : x.result <;> simp [wrap, hx]

end Run

/-! ## Retry over a finite back-off schedule -/

open Run

/-- `backoff.RetryNotify`: try the operation; while it fails and the back-off still has
an interval, notify with that interval and try again.  `op i` is the outcome of
attempt `i` and `schedule` the intervals handed out before `Stop`, a finite list as with
a positive `--k8s-timeout`.  The run returns the number of the last attempt and its
outcome. -/
def retryNotify {α : Type} (op : Nat → Except String α) (notify : Nat → LogRecord) :
    Nat → List Nat → Run (Nat × Except String α)
  | i, [] => Run.pure (i, op i)
  | i, d :: rest =>
      match op i with
      | .ok a => Run.pure (i, .ok a)
      | .error _ => do
          emit (.log (notify d))
          retryNotify op notify (i + 1) rest

section RetryNotify

variable {α : Type} (op : Nat → Except String α) (notify : Nat → LogRecord)

/-- A retry loop writes only its notifications: it makes no call and no probe. -/
theorem retryNotify_events_logs :
    ∀ (i : Nat) (schedule : List Nat), ∀ e ∈ (retryNotify op notify i schedule).events,
      ∃ d ∈ schedule, e = .log (notify d)
  | i, [] => by simp [retryNotify]
  | i, d :: rest => by
      unfold retryNotify
      cases op i with
      | ok _ => simp
      | error _ =>
          simp only [emit_bind, List.mem_cons]
          rintro e (rfl | he)
          · exact ⟨d, by simp, rfl⟩
          · obtain ⟨d', hd', rfl⟩ := retryNotify_events_logs (i + 1) rest e he
            exact ⟨d', Or.inr hd', rfl⟩

/-- A retry loop always returns a value: the attempt it stopped at and its outcome. -/
theorem retryNotify_result :
    ∀ (i : Nat) (schedule : List Nat), ∃ j, (retryNotify op notify i schedule).result =
      .ok (j, op j) ∧ i ≤ j ∧ j ≤ i + schedule.length
  | i, [] => ⟨i, rfl, le_refl i, by simp⟩
  | i, d :: rest => by
      unfold retryNotify
      cases hop : op i with
      | ok _ => exact ⟨i, by simp [hop], le_refl i, by simp⟩
      | error _ =>
          obtain ⟨j, hj, hij, hjle⟩ := retryNotify_result (i + 1) rest
          refine ⟨j, by simpa using hj, by omega, by simp; omega⟩

/-- The loop ends on a success exactly when some attempt within the schedule succeeds. -/
theorem retryNotify_ok_iff :
    ∀ (i : Nat) (schedule : List Nat),
      ((∃ j a, (retryNotify op notify i schedule).result = .ok (j, .ok a)) ↔
        ∃ k ≤ schedule.length, ∃ a, op (i + k) = .ok a)
  | i, [] => by simp [retryNotify]
  | i, d :: rest => by
      unfold retryNotify
      cases hop : op i with
      | ok a =>
          simp only [Run.result_pure, Except.ok.injEq, Prod.mk.injEq]
          exact ⟨fun _ => ⟨0, by simp, a, by simpa using hop⟩, fun _ => ⟨i, a, rfl, rfl⟩⟩
      | error _ =>
          simp only [emit_bind]
          rw [retryNotify_ok_iff (i + 1) rest]
          constructor
          · rintro ⟨k, hk, a, hop'⟩
            exact ⟨k + 1, by simp; omega, a, by rw [← hop']; congr 1; omega⟩
          · rintro ⟨k, hk, a, hop'⟩
            cases k with
            | zero => simp [hop] at hop'
            | succ k => exact ⟨k, by simp at hk; omega, a, by rw [← hop']; congr 1; omega⟩

/-- A retry loop whose every attempt fails runs the whole schedule: one notification per
interval, then the last attempt's outcome. -/
theorem retryNotify_of_forall_error :
    ∀ (i : Nat) (schedule : List Nat), (∀ k ≤ schedule.length, ∃ e, op (i + k) = .error e) →
      (retryNotify op notify i schedule).events = schedule.map (fun d => .log (notify d)) ∧
        (retryNotify op notify i schedule).result = .ok (i + schedule.length, op (i + schedule.length))
  | i, [], _ => ⟨rfl, rfl⟩
  | i, d :: rest, hfail => by
      obtain ⟨e, he⟩ := hfail 0 (Nat.zero_le _)
      obtain ⟨hevents, hresult⟩ := retryNotify_of_forall_error (i + 1) rest fun k hk =>
        (hfail (k + 1) (Nat.succ_le_succ hk)).imp fun _ h => by rwa [Nat.add_assoc, Nat.add_comm 1 k]
      have hlen : i + 1 + rest.length = i + (rest.length + 1) := by omega
      rw [Nat.add_zero] at he
      unfold retryNotify
      simp only [he, emit_bind, hevents, hresult, hlen, List.map_cons, List.length_cons, and_self]

/-- A retry loop whose first successful attempt is the `k`-th, within the schedule, stops
there: one notification per earlier interval, then that attempt's value. -/
theorem retryNotify_of_first_ok (a : α) :
    ∀ (i : Nat) (schedule : List Nat) (k : Nat), k ≤ schedule.length →
      (∀ j < k, ∃ e, op (i + j) = .error e) → op (i + k) = .ok a →
      (retryNotify op notify i schedule).events = (schedule.take k).map (fun d => .log (notify d)) ∧
        (retryNotify op notify i schedule).result = .ok (i + k, .ok a)
  | i, [], k, hk, _, hok => by
      obtain rfl : k = 0 := Nat.le_zero.mp hk
      exact ⟨rfl, by simp [retryNotify, ← hok]⟩
  | i, d :: rest, 0, _, _, hok => by
      rw [Nat.add_zero] at hok
      unfold retryNotify
      simp [hok]
  | i, d :: rest, k + 1, hk, hbefore, hok => by
      obtain ⟨e, he⟩ := hbefore 0 (Nat.succ_pos k)
      obtain ⟨hevents, hresult⟩ := retryNotify_of_first_ok a (i + 1) rest k
        (Nat.le_of_succ_le_succ hk)
        (fun j hj => by simpa [Nat.add_assoc, Nat.add_comm 1 j] using hbefore (j + 1) (Nat.succ_lt_succ hj))
        (by rwa [Nat.add_assoc, Nat.add_comm 1 k])
      rw [Nat.add_zero] at he
      unfold retryNotify
      simp only [he, emit_bind, hevents, hresult, List.take_succ_cons, List.map_cons,
        Nat.add_assoc, Nat.add_comm 1 k, and_self]

end RetryNotify

end TridentInstaller
