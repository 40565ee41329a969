import DrogonStarter.Observability.Clock
import DrogonStarter.Observability.Settings

/-!
# One delivery and its attempts

`deliver` sends a batch.  Its attempt loop is spread over three places: the
body of `deliver`, the callback of `sendRequest`, and the timer that enters
`deliver` again.  Each execution of the body or of the callback is one step,
and it ends in an `Effect` on what the deliveries share.

* `Delivery.deliver` and `Delivery.callback` are the two steps.
* `Delivery.WellFormed` is the invariant of one delivery.  It says for every
  phase how many attempts, outcomes and waits there have been.
* `Delivery.WillResolve` says that a delivery cannot end without a call of
  `success()` or `failure()`, however its attempts turn out, and
  `Delivery.willResolve` proves it of every delivery that is not finished.

The fields `outcomes`, `waits` and `calls` record the past, and nothing reads
them.
-/

namespace DrogonStarter.Observability

open CppNumber

/-- What `sendRequest` hands to its callback: whether the result is
`ReqResult::Ok`, and the status of the response when there is one. -/
structure Reply where
  ok : Bool
  statusCode : Option Nat
deriving DecidableEq

/-- `result == ReqResult::Ok && response && response->statusCode() < 400`. -/
def Reply.success (reply : Reply) : Bool :=
  reply.ok && reply.statusCode.any fun status => decide (status < 400)

/-- How one attempt turned out. -/
inductive Outcome where
  | replied (reply : Reply)
  /-- `sendRequest`, or what prepares it, threw. -/
  | threw
deriving DecidableEq

def Outcome.succeeded : Outcome → Bool
  | .replied reply => reply.success
  | .threw => false

/-- Where a delivery stands between two of its steps. -/
inductive Phase where
  /-- `allow()` has granted the batch and `deliver` is not entered yet. -/
  | granted
  /-- The request is sent and the callback has not run. -/
  | awaiting
  /-- `runAfter` holds the next attempt until `due`. -/
  | backoff (due : Nat)
  | finished
  /-- An exception left `flushQueue` before it entered `deliver`. -/
  | abandoned
deriving DecidableEq

inductive CircuitCall where
  | success
  | failure
deriving DecidableEq

/-- `struct Delivery`.  `body` stands for the rendered batch. -/
structure Delivery (β : Type) where
  body : β
  maxAttempts : Nat
  baseDelay : Double
  attempt : Nat := 0
  phase : Phase := .granted
  /-- The circuit was open when it granted the batch. -/
  whileOpen : Bool := false
  outcomes : List Outcome := []
  /-- The shift count and the delay of every `runAfter`. -/
  waits : List (Nat × Double) := []
  /-- The calls on the circuit. -/
  calls : List CircuitCall := []
deriving DecidableEq

/-- What a step does besides changing its delivery. -/
inductive Effect where
  | sent
  | retry
  | success
  | failure
deriving DecidableEq

/-- The step calls `success()` or `failure()`. -/
def Effect.Resolves (e : Effect) : Prop := e = .success ∨ e = .failure

/-- `1ULL << exponent`. -/
def shiftOne (exponent : Nat) : Nat := 2 ^ exponent % 2 ^ 64

/-- `attempt - 1` on `std::size_t`. -/
def predSize (n : Nat) : Nat := (n + (2 ^ 64 - 1)) % 2 ^ 64

theorem predSize_of_pos {n : Nat} (hpos : 1 ≤ n) (hle : n ≤ 10) : predSize n = n - 1 := by
  unfold predSize
  omega

theorem shiftOne_of_lt {n : Nat} (h : n < 64) : shiftOne n = 2 ^ n :=
  Nat.mod_eq_of_lt (Nat.pow_lt_pow_right (by decide) h)

namespace Delivery

variable {β : Type}

/-- The body of `deliver`.  An exception is caught there and resolves the
delivery. -/
def deliver (d : Delivery β) (throws : Bool) : Delivery β × Effect :=
  let started := { d with attempt := d.attempt + 1 }
  if throws then
    ({ started with
        phase := .finished
        outcomes := d.outcomes ++ [Outcome.threw]
        calls := d.calls ++ [CircuitCall.failure] }, .failure)
  else ({ started with phase := .awaiting }, .sent)

/-- The callback of `sendRequest`, at time `now`. -/
def callback (rates : ClockRates) (now : Nat) (d : Delivery β) (reply : Reply) :
    Delivery β × Effect :=
  let answered := { d with outcomes := d.outcomes ++ [Outcome.replied reply] }
  if reply.success then
    ({ answered with phase := .finished, calls := d.calls ++ [CircuitCall.success] }, .success)
  else if d.attempt < d.maxAttempts then
    let exponent := predSize d.attempt
    let delay := d.baseDelay.scale (shiftOne exponent)
    ({ answered with
        phase := .backoff (now + rates.runAfter delay),
        waits := d.waits ++ [(exponent, delay)] }, .retry)
  else
    ({ answered with phase := .finished, calls := d.calls ++ [CircuitCall.failure] }, .failure)

/-- `deliver` runs once after the grant, and then when its timer is due. -/
def MayDeliver (d : Delivery β) (now : Nat) : Prop :=
  match d.phase with
  | .granted => True
  | .backoff due => due ≤ now
  | _ => False

instance (d : Delivery β) (now : Nat) : Decidable (d.MayDeliver now) :=
  match h : d.phase with
  | .granted => isTrue (by simp [MayDeliver, h])
  | .backoff due => decidable_of_iff (due ≤ now) (by simp [MayDeliver, h])
  | .awaiting | .finished | .abandoned => isFalse (by simp [MayDeliver, h])

/-- Neither `success()` nor `failure()` has been called, and the batch has not
been lost on its way into `deliver`. -/
def Unresolved (d : Delivery β) : Prop :=
  d.phase ≠ .finished ∧ d.phase ≠ .abandoned

instance (d : Delivery β) : Decidable d.Unresolved :=
  inferInstanceAs (Decidable (d.phase ≠ .finished ∧ d.phase ≠ .abandoned))

/-! ## What the two steps can do -/

theorem deliver_cases (d : Delivery β) (throws : Bool) :
    (throws = false ∧
        d.deliver throws =
          ({ d with attempt := d.attempt + 1, phase := .awaiting }, .sent)) ∨
      (throws = true ∧
        d.deliver throws =
          ({ d with attempt := d.attempt + 1, phase := .finished,
                    outcomes := d.outcomes ++ [Outcome.threw],
                    calls := d.calls ++ [CircuitCall.failure] },
            .failure)) := by
  cases throws with
  | false => exact Or.inl ⟨rfl, rfl⟩
  | true => exact Or.inr ⟨rfl, rfl⟩

theorem callback_cases (rates : ClockRates) (now : Nat) (d : Delivery β) (reply : Reply) :
    (reply.success = true ∧
        d.callback rates now reply =
          ({ d with phase := .finished, outcomes := d.outcomes ++ [Outcome.replied reply],
                    calls := d.calls ++ [CircuitCall.success] }, .success)) ∨
      (reply.success = false ∧ d.attempt < d.maxAttempts ∧
        d.callback rates now reply =
          ({ d with
              phase := .backoff
                (now + rates.runAfter (d.baseDelay.scale (shiftOne (predSize d.attempt)))),
              outcomes := d.outcomes ++ [Outcome.replied reply],
              waits := d.waits ++
                [(predSize d.attempt, d.baseDelay.scale (shiftOne (predSize d.attempt)))] },
            .retry)) ∨
      (reply.success = false ∧ d.maxAttempts ≤ d.attempt ∧
        d.callback rates now reply =
          ({ d with phase := .finished, outcomes := d.outcomes ++ [Outcome.replied reply],
                    calls := d.calls ++ [CircuitCall.failure] }, .failure)) := by
  unfold callback
  by_cases hsuccess : reply.success = true
  · exact Or.inl ⟨hsuccess, if_pos hsuccess⟩
  · have hfailed : reply.success = false := by simpa using hsuccess
    rw [if_neg hsuccess]
    by_cases hless : d.attempt < d.maxAttempts
    · exact Or.inr (Or.inl ⟨hfailed, hless, if_pos hless⟩)
    · exact Or.inr (Or.inr ⟨hfailed, by omega, if_neg hless⟩)

/-! ## The invariant of one delivery -/

/-- The outcome that ended a delivery and the one call that it led to. -/
def Ended (cfg : ReporterConfig) (d : Delivery β) (last : Outcome) : Prop :=
  (d.calls = [.success] ∧ last.succeeded = true) ∨
    (d.calls = [.failure] ∧ last.succeeded = false ∧
      (last = .threw ∨ d.attempt = cfg.maxAttempts))

/-- What every phase says about the attempts so far. -/
def Stage (cfg : ReporterConfig) (d : Delivery β) : Prop :=
  match d.phase with
  | .granted | .abandoned =>
    d.attempt = 0 ∧ d.outcomes = [] ∧ d.waits = [] ∧ d.calls = []
  | .awaiting =>
    1 ≤ d.attempt ∧ d.attempt ≤ cfg.maxAttempts ∧ d.outcomes.length + 1 = d.attempt ∧
      d.waits.length + 1 = d.attempt ∧ d.calls = []
  | .backoff _ =>
    1 ≤ d.attempt ∧ d.attempt < cfg.maxAttempts ∧ d.outcomes.length = d.attempt ∧
      d.waits.length = d.attempt ∧ d.calls = []
  | .finished =>
    1 ≤ d.attempt ∧ d.attempt ≤ cfg.maxAttempts ∧ d.outcomes.length = d.attempt ∧
      d.waits.length + 1 = d.attempt ∧
      ∃ last, d.outcomes.getLast? = some last ∧ d.Ended cfg last

structure WellFormed (cfg : ReporterConfig) (d : Delivery β) : Prop where
  attempts : d.maxAttempts = cfg.maxAttempts
  base : d.baseDelay = cfg.retryBaseDelaySeconds
  /-- The wait after attempt `k + 1` is the base delay times `2 ^ k`. -/
  waited : d.waits = (List.range d.waits.length).map fun k =>
    (k, cfg.retryBaseDelaySeconds.scale (2 ^ k))
  stage : d.Stage cfg

/-- A delivery that enters `deliver` has attempts left, and has waited once
after each attempt. -/
theorem WellFormed.before_deliver {cfg : ReporterConfig} {d : Delivery β} {now : Nat}
    (h : d.WellFormed cfg) (hmay : d.MayDeliver now) :
    d.attempt < cfg.maxAttempts ∧ d.outcomes.length = d.attempt ∧
      d.waits.length = d.attempt ∧ d.calls = [] := by
  have hstage := h.stage
  have hbounds := cfg.bounds
  unfold Stage at hstage
  unfold MayDeliver at hmay
  cases hphase : d.phase with
  | granted =>
    simp only [hphase] at hstage
    obtain ⟨hattempt, houtcomes, hwaits, hcalls⟩ := hstage
    refine ⟨by omega, ?_, ?_, hcalls⟩
    · rw [houtcomes, hattempt, List.length_nil]
    · rw [hwaits, hattempt, List.length_nil]
  | backoff due =>
    simp only [hphase] at hstage
    exact hstage.2
  | awaiting | finished | abandoned => simp [hphase] at hmay

theorem WellFormed.deliver {cfg : ReporterConfig} {d : Delivery β} {now : Nat}
    (h : d.WellFormed cfg) (hmay : d.MayDeliver now) (throws : Bool) :
    (d.deliver throws).1.WellFormed cfg := by
  obtain ⟨hless, houtcomes, hwaits, hcalls⟩ := h.before_deliver hmay
  rcases d.deliver_cases throws with ⟨_, heq⟩ | ⟨_, heq⟩
  · rw [heq]
    refine ⟨h.attempts, h.base, h.waited, ?_⟩
    show 1 ≤ d.attempt + 1 ∧ d.attempt + 1 ≤ cfg.maxAttempts ∧
      d.outcomes.length + 1 = d.attempt + 1 ∧ d.waits.length + 1 = d.attempt + 1 ∧
      d.calls = []
    exact ⟨by omega, by omega, by omega, by omega, hcalls⟩
  · rw [heq]
    refine ⟨h.attempts, h.base, h.waited, ?_⟩
    refine ⟨Nat.le_add_left _ _, hless, ?_, by rw [hwaits], .threw, ?_, ?_⟩
    · rw [List.length_append, houtcomes, List.length_singleton]
    · exact List.getLast?_concat
    · exact Or.inr ⟨by rw [hcalls]; rfl, rfl, Or.inl rfl⟩

theorem WellFormed.callback {cfg : ReporterConfig} {d : Delivery β}
    (h : d.WellFormed cfg) (hawaiting : d.phase = .awaiting) (rates : ClockRates) (now : Nat)
    (reply : Reply) : (d.callback rates now reply).1.WellFormed cfg := by
  have hstage := h.stage
  unfold Stage at hstage
  simp only [hawaiting] at hstage
  obtain ⟨hpos, hle, houtcomes, hwaits, hcalls⟩ := hstage
  have hlength : (d.outcomes ++ [Outcome.replied reply]).length = d.attempt := by
    rw [List.length_append, List.length_singleton, houtcomes]
  rcases d.callback_cases rates now reply with
    ⟨hsuccess, heq⟩ | ⟨_, hless, heq⟩ | ⟨hfailed, hlast, heq⟩
  · rw [heq]
    refine ⟨h.attempts, h.base, h.waited, hpos, hle, hlength, hwaits, .replied reply,
      List.getLast?_concat, Or.inl ⟨by rw [hcalls]; rfl, hsuccess⟩⟩
  · rw [heq]
    rw [h.attempts] at hless
    have hbounds := cfg.bounds
    have hexponent : predSize d.attempt = d.waits.length := by
      rw [predSize_of_pos hpos (by omega)]
      omega
    refine ⟨h.attempts, h.base, ?_, hpos, hless, hlength, ?_, hcalls⟩
    · -- The new wait extends the list by its next element.
      rw [hexponent, shiftOne_of_lt (by omega), h.base, List.length_append,
        List.length_singleton, List.range_succ, List.map_append, ← h.waited]
      rfl
    · rw [List.length_append, List.length_singleton, hwaits]
  · rw [heq]
    rw [h.attempts] at hlast
    have hmax : d.attempt = cfg.maxAttempts := Nat.le_antisymm hle hlast
    exact ⟨h.attempts, h.base, h.waited, hpos, hle, hlength, hwaits, .replied reply,
      List.getLast?_concat, Or.inr ⟨by rw [hcalls]; rfl, hfailed, Or.inr hmax⟩⟩

/-! ## A delivery that is not finished resolves -/

/-- A step of the delivery itself, at time `now`. -/
inductive Move (rates : ClockRates) (now : Nat) (d : Delivery β) : Delivery β → Effect → Prop
  | deliver (throws : Bool) (hmay : d.MayDeliver now) :
      Move rates now d (d.deliver throws).1 (d.deliver throws).2
  | callback (reply : Reply) (hawaiting : d.phase = .awaiting) :
      Move rates now d (d.callback rates now reply).1 (d.callback rates now reply).2

/-- The delivery can take a step, and every sequence of its steps comes to one
that calls `success()` or `failure()`. -/
inductive WillResolve (rates : ClockRates) : Delivery β → Prop
  | intro {d : Delivery β} (can : ∃ now d' e, d.Move rates now d' e)
      (ends : ∀ now d' e, d.Move rates now d' e → ¬ e.Resolves → WillResolve rates d') :
      WillResolve rates d

theorem WellFormed.move {cfg : ReporterConfig} {rates : ClockRates} {now : Nat}
    {d d' : Delivery β} {e : Effect} (h : d.WellFormed cfg) (hmove : d.Move rates now d' e) :
    d'.WellFormed cfg := by
  cases hmove with
  | deliver throws hmay => exact h.deliver hmay throws
  | callback reply hawaiting => exact h.callback hawaiting rates now reply

theorem MayDeliver.unresolved {d : Delivery β} {now : Nat} (h : d.MayDeliver now) :
    d.Unresolved := by
  unfold MayDeliver at h
  constructor <;> intro hphase <;> simp [hphase] at h

theorem Move.unresolved {rates : ClockRates} {now : Nat} {d d' : Delivery β} {e : Effect}
    (hmove : d.Move rates now d' e) : d.Unresolved := by
  cases hmove with
  | deliver throws hmay => exact hmay.unresolved
  | callback reply hawaiting => exact ⟨by simp [hawaiting], by simp [hawaiting]⟩

/-- A step keeps what the delivery was made with. -/
theorem Move.same {rates : ClockRates} {now : Nat} {d d' : Delivery β} {e : Effect}
    (hmove : d.Move rates now d' e) : d'.body = d.body ∧ d'.whileOpen = d.whileOpen := by
  cases hmove with
  | deliver throws hmay =>
    rcases d.deliver_cases throws with ⟨_, heq⟩ | ⟨_, heq⟩ <;> rw [heq] <;> exact ⟨rfl, rfl⟩
  | callback reply hawaiting =>
    rcases d.callback_cases rates now reply with ⟨_, heq⟩ | ⟨_, _, heq⟩ | ⟨_, _, heq⟩ <;>
      rw [heq] <;> exact ⟨rfl, rfl⟩

/-- A step finishes the delivery exactly when it resolves it, and leaves it
unresolved otherwise. -/
theorem Move.phase {rates : ClockRates} {now : Nat} {d d' : Delivery β} {e : Effect}
    (hmove : d.Move rates now d' e) :
    (e.Resolves ∧ d'.phase = .finished) ∨ (¬ e.Resolves ∧ d'.Unresolved) := by
  cases hmove with
  | deliver throws hmay =>
    rcases d.deliver_cases throws with ⟨_, heq⟩ | ⟨_, heq⟩ <;> rw [heq]
    · exact Or.inr ⟨by simp [Effect.Resolves], by simp [Unresolved]⟩
    · exact Or.inl ⟨Or.inr rfl, rfl⟩
  | callback reply hawaiting =>
    rcases d.callback_cases rates now reply with ⟨_, heq⟩ | ⟨_, _, heq⟩ | ⟨_, _, heq⟩ <;>
      rw [heq]
    · exact Or.inl ⟨Or.inl rfl, rfl⟩
    · exact Or.inr ⟨by simp [Effect.Resolves], by simp [Unresolved]⟩
    · exact Or.inl ⟨Or.inr rfl, rfl⟩

/-- An upper bound of the steps that are left. -/
def stepsLeft (cfg : ReporterConfig) (d : Delivery β) : Nat :=
  match d.phase with
  | .granted => 2 * cfg.maxAttempts
  | .awaiting => 2 * (cfg.maxAttempts - d.attempt) + 1
  | .backoff _ => 2 * (cfg.maxAttempts - d.attempt)
  | .finished | .abandoned => 0

/-- A step that does not resolve the delivery leaves it unresolved with fewer
steps. -/
theorem WellFormed.move_decreases {cfg : ReporterConfig} {rates : ClockRates}
    {now : Nat} {d d' : Delivery β} {e : Effect} (h : d.WellFormed cfg)
    (hmove : d.Move rates now d' e) (hlive : ¬ e.Resolves) :
    d'.Unresolved ∧ d'.stepsLeft cfg < d.stepsLeft cfg := by
  cases hmove with
  | deliver throws hmay =>
    have hless := (h.before_deliver hmay).1
    rcases d.deliver_cases throws with ⟨_, heq⟩ | ⟨_, heq⟩
    · rw [heq]
      refine ⟨⟨by simp, by simp⟩, ?_⟩
      unfold MayDeliver at hmay
      unfold stepsLeft
      cases hphase : d.phase with
      | granted =>
        show 2 * (cfg.maxAttempts - (d.attempt + 1)) + 1 < 2 * cfg.maxAttempts
        omega
      | backoff due =>
        show 2 * (cfg.maxAttempts - (d.attempt + 1)) + 1 <
          2 * (cfg.maxAttempts - d.attempt)
        omega
      | awaiting | finished | abandoned => simp [hphase] at hmay
    · rw [heq] at hlive
      exact absurd (Or.inr rfl) hlive
  | callback reply hawaiting =>
    rcases d.callback_cases rates now reply with ⟨_, heq⟩ | ⟨_, _, heq⟩ | ⟨_, _, heq⟩
    · rw [heq] at hlive
      exact absurd (Or.inl rfl) hlive
    · rw [heq]
      refine ⟨⟨by simp, by simp⟩, ?_⟩
      unfold stepsLeft
      rw [hawaiting]
      show 2 * (cfg.maxAttempts - d.attempt) < 2 * (cfg.maxAttempts - d.attempt) + 1
      omega
    · rw [heq] at hlive
      exact absurd (Or.inr rfl) hlive

/-- A delivery that is not resolved has a step to take, once its timer is due. -/
theorem Unresolved.can_move {d : Delivery β} (h : d.Unresolved) (rates : ClockRates) :
    ∃ now d' e, d.Move rates now d' e := by
  cases hphase : d.phase with
  | granted => exact ⟨0, _, _, .deliver false (by simp [MayDeliver, hphase])⟩
  | awaiting => exact ⟨0, _, _, .callback { ok := false, statusCode := none } hphase⟩
  | backoff due => exact ⟨due, _, _, .deliver false (by simp [MayDeliver, hphase])⟩
  | finished => exact absurd hphase h.1
  | abandoned => exact absurd hphase h.2

theorem willResolve {cfg : ReporterConfig} (rates : ClockRates) {d : Delivery β}
    (h : d.WellFormed cfg) (hlive : d.Unresolved) : d.WillResolve rates := by
  -- The induction is on the number of steps that are left.
  generalize hsteps : d.stepsLeft cfg = n
  induction n using Nat.strongRecOn generalizing d with
  | ind n ih =>
    refine .intro (hlive.can_move rates) fun now d' e hmove he => ?_
    obtain ⟨hlive', hless⟩ := h.move_decreases hmove he
    exact ih _ (hsteps ▸ hless) (h.move hmove) hlive' rfl

theorem WillResolve.unresolved {rates : ClockRates} {d : Delivery β}
    (h : d.WillResolve rates) : d.Unresolved := by
  obtain ⟨⟨_, _, _, hmove⟩, _⟩ := h
  exact hmove.unresolved

end Delivery

end DrogonStarter.Observability
