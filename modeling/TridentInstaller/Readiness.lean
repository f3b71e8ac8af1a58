import TridentInstaller.Run
set_option autoImplicit false

/-!
# Readiness waits (`waitForTridentPod`, `waitForRESTInterface`, the PVC wait)

Each wait is one `retryNotify` loop over a predicate.  Its back-off schedule is the
finite list of intervals `ExponentialBackOff` hands out before `Stop`, as with a positive
`--k8s-timeout`; the model covers only waits that end.
-/

namespace TridentInstaller

open Run

/-- Division rounded to the nearest integer, ties to even. -/
def divRoundEven (a b : Nat) : Nat :=
  if 2 * (a % b) < b then a / b
  else if b < 2 * (a % b) then a / b + 1
  else if (a / b) % 2 = 0 then a / b else a / b + 1

/-- `num / den * 2 ^ e`, as a numerator and a denominator. -/
def scalePow2 (num den : Nat) (e : Int) : Nat × Nat :=
  if 0 ≤ e then (num * 2 ^ e.toNat, den) else (num, den * 2 ^ (-e).toNat)

/-- The number of binary digits of `n`; `fuel` bounds the recursion and `n` is enough. -/
def bitLength : Nat → Nat → Nat
  | 0, _ => 0
  | fuel + 1, n => if n = 0 then 0 else bitLength fuel (n / 2) + 1

/-- The float64 nearest to `num / den`, ties to even, as `(m, e)` with value `m * 2 ^ e`
and `m < 2 ^ 53`.  The values here are whole seconds plus nanoseconds, all normal. -/
def toFloat64 (num den : Nat) : Nat × Int :=
  if num = 0 then (0, 0) else
    let k : Int := (bitLength num num : Int) - bitLength den den
    -- `num / den` lies in `[2 ^ (k - 1), 2 ^ (k + 1))`; `top` is its binary exponent
    let top := if (scalePow2 num den (-k)).2 ≤ (scalePow2 num den (-k)).1 then k else k - 1
    let m := divRoundEven (scalePow2 num den (52 - top)).1 (scalePow2 num den (52 - top)).2
    if m = 2 ^ 53 then (2 ^ 52, top - 51) else (m, top - 52)

/-- `Duration.Seconds()`: `float64(sec) + float64(nsec)/1e9`, each step rounded to float64. -/
def durationSeconds (ns : Nat) : Nat × Int :=
  let (mq, eq) := toFloat64 (ns % 1000000000) 1000000000
  let (num, den) := scalePow2 mq 1 eq
  toFloat64 ((ns / 1000000000) * den + num) den

/-- `%3.2f` of a duration's seconds: the float64 value rounded to hundredths, ties to even,
as `strconv` rounds the exact binary value. -/
def secondsText (ns : Nat) : String :=
  let (m, e) := durationSeconds ns
  let centis := divRoundEven (scalePow2 (m * 100) 1 e).1 (scalePow2 (m * 100) 1 e).2
  toString (centis / 100) ++ "." ++ (if centis % 100 < 10 then "0" else "") ++ toString (centis % 100)

/-- The default timeout. -/
example : secondsText 180000000000 = "180.00" := by decide

/-- `1.005` is below the half in float64, so Go prints `1.00`. -/
example : secondsText 1005000000 = "1.00" := by decide

/-- `0.125` is exact, a tie, and rounds to even. -/
example : secondsText 125000000 = "0.12" := by decide

/-- `checkPVCBound`: `CheckPVCBound` answered `true`. -/
def pvcBoundAttempt (env : Env) (i : Nat) : Except String Unit :=
  match env.checkPVCBound i with
  | .ok true => .ok ()
  | _ => .error "PVC not bound"

/-- "Wait for PV/PVC to be bound": check once, and only if that fails, log and retry. -/
def waitForPVCBound (cfg : Config) (env : Env) : Run Unit :=
  match pvcBoundAttempt env 0 with
  | .ok () => Run.pure ()
  | .error _ => do
      log .info "Waiting for PVC to be bound." [("pvc", .str cfg.pvcName)]
      let (_, outcome) ← retryNotify (pvcBoundAttempt env)
        (fun d => ⟨.debug, "PVC not yet bound, waiting.",
          [("pvc", .str cfg.pvcName), ("increment", .duration d)]⟩) 1 env.pvcBackOff
      match outcome with
      | .ok () => Run.pure ()
      | .error _ => fail ("PVC " ++ cfg.pvcName ++ " was not bound after " ++
          toString cfg.k8sTimeout ++ " seconds")

/-- `checkPodRunning`: the pod with the app label is in phase `Running`. -/
def podRunningAttempt (env : Env) (i : Nat) : Except String Pod :=
  match env.getPodByLabel i with
  | .ok pod => if pod.phase = "Running" then .ok pod else .error "pod not running"
  | .error _ => .error "pod not running"

/-- The error `waitForTridentPod` logs on a timeout, from the pod of the last attempt. -/
def podTimeoutMessage (cfg : Config) (env : Env) (lastPod : Option Pod) : String :=
  let head := "Trident pod was not running after " ++ secondsText cfg.k8sTimeout ++ " seconds."
  let details := match lastPod with
    | none => []
    | some pod =>
        (if pod.phase = "" then []
          else ("Pod status is " ++ pod.phase ++ ".") ::
            (if pod.message = "" then [] else [pod.message])) ++
        ["Use '" ++ env.cli ++ " describe pod " ++ pod.name ++ " -n " ++ cfg.namespace_ ++
          "' for more information."]
  " ".intercalate (head :: details)

/-- `waitForTridentPod`: retry until the pod runs; on a timeout log what the last attempt
saw and return its error. -/
def waitForTridentPod (cfg : Config) (env : Env) : Run Pod := do
  log .info "Waiting for Trident pod to start." []
  let (last, outcome) ← retryNotify (podRunningAttempt env)
    (fun d => ⟨.debug, "Trident pod not yet running, waiting.", [("increment", .duration d)]⟩) 0
    env.podBackOff
  match outcome with
  | .ok pod => do
      log .info "Trident pod started." [("pod", .str pod.name), ("namespace", .str cfg.namespace_)]
      Run.pure pod
  | .error e => do
      log .error (podTimeoutMessage cfg env (env.getPodByLabel last).toOption) []
      fail e

/-- `checkRESTInterface`: run `tridentctl version` in the pod and decode its answer. -/
def restAttempt (env : Env) (podName : String) (i : Nat) : Except String String :=
  let (output, err) := env.exec podName i
  match err with
  | some e => .error (if output ≠ "" then e ++ "; " ++ output.trim else e)
  | none => env.unmarshalVersion output

/-- `waitForRESTInterface`: retry until the REST interface answers with a version. -/
def waitForRESTInterface (cfg : Config) (env : Env) (podName : String) : Run Unit := do
  log .info "Waiting for Trident REST interface." []
  let (_, outcome) ← retryNotify (restAttempt env podName)
    (fun d => ⟨.debug, "REST interface not yet up, waiting.", [("increment", .duration d)]⟩) 0
    env.restBackOff
  match outcome with
  | .ok version => log .info "Trident REST interface is up." [("version", .str version)]
  | .error e => do
      log .error ("Trident REST interface was not available after " ++
        secondsText cfg.k8sTimeout ++ " seconds.") []
      fail e

end TridentInstaller
