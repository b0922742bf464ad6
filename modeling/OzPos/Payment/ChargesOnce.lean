import OzPos.Payment.Drivers
import Mathlib.Tactic.Linarith
import Mathlib.Algebra.Order.BigOperators.Group.List

namespace OzPos

/-- However the gateways answer, the call does not overflow, makes one charge at most, and calls no
driver more often than its retries allow. -/
def ChargesOnce (debug : String → String) (methodFallbacks : String → List Processor)
    (op : ChargeOp) (req : PaymentRequest) (method : String) : Prop :=
  ∀ pat w, let r := executeWithFallback debug methodFallbacks pat op req method w
    r.result ≠ none ∧ r.world.charges.length ≤ w.charges.length + 1 ∧
      List.Forall₂ (fun n p => n ≤ p.maxRetries + 1) r.attempts
        ((methodFallbacks method).take r.attempts.length)

/-- The key that every attempt of a driver sends, if it is one. -/
def Driver.stableKey (req : PaymentRequest) (driver : Driver) : Option String :=
  match driver.kind with
  | .stripe | .square => req.callerKey
  | .qris => if orderKey req = [] then none else some ("QRIS-" ++ String.ofList (orderKey req))
  | .paddle => none

def ResilientProcessorConfig.Fits (config : ResilientProcessorConfig) : Prop :=
  config.maxRetries = 0 ∨
    (config.maxRetries ≤ 64 ∧ config.initialBackoffMs * 2 ^ (config.maxRetries - 1) < 2 ^ 64)

def charging (chain : List Processor) : List Processor :=
  chain.filter (fun p => p.driver.kind ≠ .paddle)

/-- Those that charge do so at one gateway with one key, or there is one of them at most and it does
not retry. -/
structure SafeChain (req : PaymentRequest) (chain : List Processor) : Prop where
  fits : ∀ p ∈ charging chain, ∀ config breaker, p.resilience = some (config, breaker) → config.Fits
  once : (∃ driver, (driver.stableKey req).isSome ∧ ∀ p ∈ charging chain, p.driver = driver) ∨
    ((charging chain).length ≤ 1 ∧ ∀ p ∈ charging chain, p.maxRetries = 0)

variable {debug : String → String} {pat : Pattern} {op : ChargeOp} {req : PaymentRequest}

variable {driver : Driver}

theorem keyFor_stable {key : String} (h : driver.stableKey req = some key)
    (d : NetDraw) : driver.kind.keyFor req d = some key := by
  unfold Driver.stableKey at h
  unfold DriverKind.keyFor orderIdFor
  cases hkind : driver.kind with
  | stripe => simpa [hkind] using h
  | square =>
    simp only [hkind] at h
    simp [h]
  | qris =>
    simp only [hkind] at h
    split at h
    · cases h
    · rename_i hkey
      simpa [hkey] using h
  | paddle => simp [hkind] at h

theorem run_paddle (h : driver.kind = .paddle) (w : World) :
    driver.run debug pat req op w =
      (w, .error (.unsupported "Paddle authorize — PLANNED, not implemented yet")) := by
  cases op with
  | authorize => simp [Driver.run, Driver.authorize, h]
  | sale => simp [Driver.run, Driver.sale, Driver.authorize, h]

theorem authorize_charges {driver : Driver} (h : driver.kind ≠ .paddle) (w : World) :
    (driver.authorize debug pat req w).1.charges =
      place (pat.draw w.sent).created ⟨driver, driver.kind.keyFor req (pat.draw w.sent), req.amount⟩
        w.charges := by
  unfold Driver.authorize
  cases hkind : driver.kind with
  | paddle => exact absurd hkind h
  | stripe => simp [Driver.sendCharge, hkind]
  | square => simp [Driver.sendCharge, hkind]
  | qris => simp [Driver.sendCharge, hkind]

theorem run_charges (h : driver.kind ≠ .paddle) (w : World) :
    (driver.run debug pat req op w).1.charges =
      place (pat.draw w.sent).created ⟨driver, driver.kind.keyFor req (pat.draw w.sent), req.amount⟩
        w.charges := by
  cases op with
  | authorize => exact authorize_charges h w
  | sale =>
    have hauthorize := @authorize_charges debug pat req driver h w
    unfold Driver.run Driver.sale
    cases hkind : driver.kind with
    | paddle => exact absurd hkind h
    | qris => simp [Driver.sendCharge, hkind]
    | stripe =>
      rw [hkind] at hauthorize
      dsimp only
      cases hresult : driver.authorize debug pat req w with
      | mk w' result =>
        rw [hresult] at hauthorize
        cases result with
        | error e => exact hauthorize
        | ok auth =>
          dsimp only
          split
          · simpa [Driver.capture, hkind] using hauthorize
          · exact hauthorize
    | square =>
      rw [hkind] at hauthorize
      dsimp only
      cases hresult : driver.authorize debug pat req w with
      | mk w' result =>
        rw [hresult] at hauthorize
        cases result with
        | error e => exact hauthorize
        | ok auth =>
          dsimp only
          split
          · simpa [Driver.capture, hkind] using hauthorize
          · exact hauthorize

theorem length_place (created : Bool) (c : Charge) (charges : List Charge) :
    (place created c charges).length ≤ charges.length + 1 := by
  unfold place
  split
  · simp
  · omega

section Kept

variable {P : List Charge → Prop} {operation : World → World × Except PaymentError PaymentResult}

theorem retryLoop_kept (h : ∀ w, P w.charges → P (operation w).1.charges)
    (config : ResilientProcessorConfig) (breaker retries attempt : Nat) (w : World)
    (hw : P w.charges) :
    P (retryLoop config breaker pat operation retries attempt w).world.charges := by
  induction retries generalizing attempt w with
  | zero =>
    have hnext := h w hw
    unfold retryLoop
    cases hresult : operation w with
    | mk w' result =>
      rw [hresult] at hnext
      cases result with
      | ok result => exact hnext
      | error e => exact hnext
  | succ retries ih =>
    have hnext := h w hw
    unfold retryLoop
    cases hresult : operation w with
    | mk w' result =>
      rw [hresult] at hnext
      cases result with
      | ok result => exact hnext
      | error e =>
        dsimp only
        split
        · split
          · exact hnext
          · exact ih _ _ hnext
        · exact hnext

theorem executeWithResilience_kept (h : ∀ w, P w.charges → P (operation w).1.charges)
    (config : ResilientProcessorConfig) (breaker : Nat) (w : World) (hw : P w.charges) :
    P (executeWithResilience config breaker pat operation w).world.charges := by
  unfold executeWithResilience
  dsimp only
  split
  · exact hw
  · exact retryLoop_kept h config breaker _ _ _ hw

theorem processor_kept {p : Processor}
    (h : ∀ w, P w.charges → P (p.driver.run debug pat req op w).1.charges) (w : World)
    (hw : P w.charges) : P (p.run debug pat op req w).world.charges := by
  unfold Processor.run
  split
  · exact h w hw
  · exact executeWithResilience_kept h _ _ w hw

end Kept

theorem retryLoop_attempts (operation : World → World × Except PaymentError PaymentResult)
    (config : ResilientProcessorConfig) (breaker retries attempt : Nat) (w : World) :
    (retryLoop config breaker pat operation retries attempt w).attempts ≤
      attempt + retries + 1 := by
  induction retries generalizing attempt w with
  | zero =>
    unfold retryLoop
    cases hresult : operation w with
    | mk w' result =>
      cases result with
      | ok result => exact Nat.le_refl _
      | error e => exact Nat.le_refl _
  | succ retries ih =>
    unfold retryLoop
    cases hresult : operation w with
    | mk w' result =>
      cases result with
      | ok result =>
        dsimp only
        omega
      | error e =>
        dsimp only
        split
        · split
          · dsimp only
            omega
          · have hrest := ih (attempt + 1) w'
            omega
        · dsimp only
          omega

theorem processor_attempts (p : Processor) (w : World) :
    (p.run debug pat op req w).attempts ≤ p.maxRetries + 1 := by
  unfold Processor.run Processor.maxRetries
  cases p.resilience with
  | none => exact Nat.le_refl _
  | some wrapped =>
    obtain ⟨config, breaker⟩ := wrapped
    dsimp only
    unfold executeWithResilience
    dsimp only
    split
    · exact Nat.zero_le _
    · have hattempts := @retryLoop_attempts pat (p.driver.run debug pat req op) config breaker
        config.maxRetries 0
      simpa using hattempts _

theorem fallbackLoop_attempts (method : String) (chain : List Processor)
    (last : Option PaymentError) (w : World) :
    List.Forall₂ (fun n p => n ≤ p.maxRetries + 1)
      (fallbackLoop debug pat op req method chain last w).attempts
      (chain.take (fallbackLoop debug pat op req method chain last w).attempts.length) := by
  induction chain generalizing last w with
  | nil => exact .nil
  | cons p chain ih =>
    have hfirst := @processor_attempts debug pat op req p w
    unfold fallbackLoop
    dsimp only
    split
    · exact .cons hfirst .nil
    · exact .cons hfirst .nil
    · split
      · exact .cons hfirst .nil
      · exact .cons hfirst (ih _ _)

variable (config : ResilientProcessorConfig)

theorem backoffMs_isSome_iff (attempt : Nat) :
    (config.backoffMs attempt).isSome ↔
      attempt ≤ 64 ∧ config.initialBackoffMs * 2 ^ (attempt - 1) < 2 ^ 64 := by
  unfold ResilientProcessorConfig.backoffMs
  split
  · rename_i hshift
    simp only [Option.isSome_none, Bool.false_eq_true, false_iff]
    omega
  · rename_i hshift
    dsimp only
    split
    · rename_i hproduct
      simp only [Option.isSome_none, Bool.false_eq_true, false_iff]
      omega
    · rename_i hproduct
      simp only [Option.isSome_some, true_iff]
      omega

theorem fits_iff :
    config.Fits ↔ ∀ attempt, 0 < attempt → attempt ≤ config.maxRetries →
      (config.backoffMs attempt).isSome := by
  unfold ResilientProcessorConfig.Fits
  constructor
  · rintro (hzero | ⟨hretries, hproduct⟩) attempt hpos hle
    · omega
    · rw [backoffMs_isSome_iff]
      refine ⟨by omega, ?_⟩
      have hpow : 2 ^ (attempt - 1) ≤ 2 ^ (config.maxRetries - 1) :=
        Nat.pow_le_pow_right (by omega) (by omega)
      have hmul := Nat.mul_le_mul_left config.initialBackoffMs hpow
      omega
  · intro h
    by_cases hzero : config.maxRetries = 0
    · exact .inl hzero
    · have hlast := h config.maxRetries (by omega) (Nat.le_refl _)
      rw [backoffMs_isSome_iff] at hlast
      exact .inr hlast

theorem retryLoop_result {config : ResilientProcessorConfig} (h : config.Fits) (breaker : Nat)
    (operation : World → World × Except PaymentError PaymentResult) (retries attempt : Nat)
    (w : World) (hretries : attempt + retries ≤ config.maxRetries) :
    (retryLoop config breaker pat operation retries attempt w).result ≠ none := by
  induction retries generalizing attempt w with
  | zero =>
    unfold retryLoop
    cases hresult : operation w with
    | mk w' result =>
      cases result with
      | ok result => simp
      | error e => simp
  | succ retries ih =>
    unfold retryLoop
    cases hresult : operation w with
    | mk w' result =>
      cases result with
      | ok result => simp
      | error e =>
        dsimp only
        split
        · split
          · rename_i hoverflow
            have hfits := (fits_iff config).mp h (attempt + 1) (by omega) (by omega)
            rw [hoverflow] at hfits
            cases hfits
          · exact ih _ _ (by omega)
        · simp

theorem retryLoop_paddle (h : driver.kind = .paddle)
    (config : ResilientProcessorConfig) (breaker retries : Nat) (w : World) :
    (retryLoop config breaker pat (driver.run debug pat req op) retries 0 w).result ≠ none := by
  unfold retryLoop
  rw [run_paddle h]
  cases retries with
  | zero => simp
  | succ retries => simp [PaymentError.classify]

theorem processor_result {p : Processor}
    (h : p.driver.kind = .paddle ∨
      ∀ config breaker, p.resilience = some (config, breaker) → config.Fits) (w : World) :
    (p.run debug pat op req w).result ≠ none := by
  unfold Processor.run
  cases hwrapped : p.resilience with
  | none => simp
  | some wrapped =>
    obtain ⟨config, breaker⟩ := wrapped
    dsimp only
    unfold executeWithResilience
    dsimp only
    split
    · simp
    · rcases h with hpaddle | hfits
      · exact retryLoop_paddle hpaddle config breaker _ _
      · exact retryLoop_result (hfits config breaker hwrapped) breaker _ _ _ _ (by omega)

theorem fallbackLoop_result {method : String} {chain : List Processor}
    (h : ∀ p ∈ charging chain, ∀ config breaker, p.resilience = some (config, breaker) →
      config.Fits) (last : Option PaymentError) (w : World) :
    (fallbackLoop debug pat op req method chain last w).result ≠ none := by
  induction chain generalizing last w with
  | nil => simp [fallbackLoop]
  | cons p chain ih =>
    have hfirst : p.driver.kind = .paddle ∨
        ∀ config breaker, p.resilience = some (config, breaker) → config.Fits := by
      by_cases hpaddle : p.driver.kind = .paddle
      · exact .inl hpaddle
      · exact .inr (h p (List.mem_filter.mpr ⟨List.mem_cons_self, by simpa using hpaddle⟩))
    have hrest := ih (fun q hq => h q (List.mem_filter.mpr
      ⟨List.mem_cons_of_mem _ (List.mem_filter.mp hq).1, (List.mem_filter.mp hq).2⟩))
    have hresult := @processor_result debug pat op req p hfirst w
    unfold fallbackLoop
    dsimp only
    split
    · rename_i hnone
      exact absurd hnone hresult
    · simp
    · split
      · simp
      · exact hrest _ _

theorem fallbackLoop_kept {P : List Charge → Prop} {method : String} {chain : List Processor}
    (h : ∀ p ∈ chain, ∀ w : World, P w.charges → P (p.driver.run debug pat req op w).1.charges)
    (last : Option PaymentError) (w : World) (hw : P w.charges) :
    P (fallbackLoop debug pat op req method chain last w).world.charges := by
  induction chain generalizing last w with
  | nil => exact hw
  | cons p chain ih =>
    have hfirst := processor_kept (h p List.mem_cons_self) w hw
    unfold fallbackLoop
    dsimp only
    split
    · exact hfirst
    · exact hfirst
    · split
      · exact hfirst
      · exact ih (fun q hq => h q (List.mem_cons_of_mem _ hq)) _ _ hfirst

theorem kept_ofKey {prior : List Charge} {key : String} (hkey : driver.stableKey req = some key)
    {p : Processor} (hp : p.driver.kind ≠ .paddle → p.driver = driver) (w : World)
    (hw : w.charges = prior ∨ ∃ c, w.charges = c :: prior ∧ c.driver = driver ∧ c.key = some key) :
    (p.driver.run debug pat req op w).1.charges = prior ∨
      ∃ c, (p.driver.run debug pat req op w).1.charges = c :: prior ∧ c.driver = driver ∧
        c.key = some key := by
  by_cases hpaddle : p.driver.kind = .paddle
  · rw [run_paddle hpaddle]
    exact hw
  · rw [run_charges hpaddle, hp hpaddle, keyFor_stable hkey]
    unfold place
    rcases hw with hprior | ⟨c, hcharges, hdriver, hckey⟩
    · rw [hprior]
      split
      · exact .inr ⟨_, rfl, rfl, rfl⟩
      · exact .inl rfl
    · have hcharged : chargedFor w.charges driver (some key) = true := by
        unfold chargedFor
        rw [hcharges]
        simp [hdriver, hckey]
      simp only [hcharged, Bool.not_true, Bool.and_false, Bool.false_eq_true, if_false]
      exact .inr ⟨c, hcharges, hdriver, hckey⟩

theorem processor_length {p : Processor} (h : p.maxRetries = 0) (w : World) :
    (p.run debug pat op req w).world.charges.length ≤
      w.charges.length + if p.driver.kind = .paddle then 0 else 1 := by
  have hcall : ∀ w : World, (p.driver.run debug pat req op w).1.charges.length ≤
      w.charges.length + if p.driver.kind = .paddle then 0 else 1 := by
    intro w
    split
    · rename_i hpaddle
      rw [run_paddle hpaddle]
      exact Nat.le_refl _
    · rename_i hpaddle
      rw [run_charges hpaddle]
      exact length_place _ _ _
  unfold Processor.run
  unfold Processor.maxRetries at h
  cases hwrapped : p.resilience with
  | none => exact hcall w
  | some wrapped =>
    obtain ⟨config, breaker⟩ := wrapped
    simp only [hwrapped] at h
    dsimp only
    unfold executeWithResilience
    dsimp only
    split
    · exact Nat.le_add_right _ _
    · rw [h]
      unfold retryLoop
      have hcalled := hcall (w.tick.setBreaker breaker
        ((w.breakers breaker).observed config.cooldownMs (pat.clock w.reads)))
      cases hresult : p.driver.run debug pat req op (w.tick.setBreaker breaker
          ((w.breakers breaker).observed config.cooldownMs (pat.clock w.reads))) with
      | mk w' result =>
        rw [hresult] at hcalled
        cases result with
        | ok result => exact hcalled
        | error e => exact hcalled

theorem fallbackLoop_length {method : String} {chain : List Processor}
    (h : ∀ p ∈ charging chain, p.maxRetries = 0) (last : Option PaymentError) (w : World) :
    (fallbackLoop debug pat op req method chain last w).world.charges.length ≤
      w.charges.length + (charging chain).length := by
  induction chain generalizing last w with
  | nil => exact Nat.le_refl _
  | cons p chain ih =>
    have hrest := ih (fun q hq => h q (List.mem_filter.mpr
      ⟨List.mem_cons_of_mem _ (List.mem_filter.mp hq).1, (List.mem_filter.mp hq).2⟩))
    have hlength : (charging (p :: chain)).length =
        (if p.driver.kind = .paddle then 0 else 1) + (charging chain).length := by
      unfold charging
      rw [List.filter_cons]
      split
      · rename_i hcharging
        have hpaddle : p.driver.kind ≠ .paddle := by simpa using hcharging
        simp only [hpaddle, if_false, List.length_cons]
        omega
      · rename_i hcharging
        have hpaddle : p.driver.kind = .paddle := by simpa using hcharging
        simp [hpaddle]
    have hfirst : (p.run debug pat op req w).world.charges.length ≤
        w.charges.length + if p.driver.kind = .paddle then 0 else 1 := by
      by_cases hpaddle : p.driver.kind = .paddle
      · have hkept := @processor_kept debug pat op req (fun charges => charges = w.charges) p
          (fun w' hw' => by rw [run_paddle hpaddle]; exact hw') w rfl
        rw [hkept]
        exact Nat.le_add_right _ _
      · exact processor_length
          (h p (List.mem_filter.mpr ⟨List.mem_cons_self, by simpa using hpaddle⟩)) w
    unfold fallbackLoop
    dsimp only
    split
    · dsimp only
      omega
    · dsimp only
      omega
    · split
      · dsimp only
        omega
      · have hafter := hrest (some ‹_›) (p.run debug pat op req w).world
        dsimp only
        omega

theorem chargesOnce_of_safe {methodFallbacks : String → List Processor} {method : String}
    (h : SafeChain req (methodFallbacks method)) :
    ChargesOnce debug methodFallbacks op req method := by
  intro pat w
  dsimp only
  unfold executeWithFallback
  cases hchain : methodFallbacks method with
  | nil => exact ⟨by simp, Nat.le_add_right _ _, .nil⟩
  | cons p chain =>
    rw [hchain] at h
    refine ⟨fallbackLoop_result h.fits _ _, ?_, fallbackLoop_attempts _ _ _ _⟩
    rcases h.once with ⟨driver, hkeyed, hsame⟩ | ⟨hone, hsingle⟩
    · obtain ⟨key, hkey⟩ := Option.isSome_iff_exists.mp hkeyed
      have hkept := @fallbackLoop_kept debug pat op req
        (fun charges => charges = w.charges ∨
          ∃ c, charges = c :: w.charges ∧ c.driver = driver ∧ c.key = some key)
        method (p :: chain)
        (fun q hq w' hw' => kept_ofKey hkey (fun hcharging =>
          hsame q (List.mem_filter.mpr ⟨hq, by simpa using hcharging⟩)) w' hw') none w (.inl rfl)
      rcases hkept with hprior | ⟨c, hcharges, -, -⟩
      · rw [hprior]
        exact Nat.le_add_right _ _
      · rw [hcharges]
        exact Nat.le_refl _
    · have hlength := @fallbackLoop_length debug pat op req method (p :: chain) hsingle none w
      show (fallbackLoop debug pat op req method (p :: chain) none w).world.charges.length ≤ _
      omega

end OzPos
