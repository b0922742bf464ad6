import OzPos.Payment.ChargesOnce

namespace OzPos

/-- A UUID of the `n`-th request, whose tail is always the same. -/
def nthUuid (n : Nat) : String := String.ofList (List.replicate n 'a' ++ List.replicate 12 '0')

/-- Every charge is made, every answer is lost, and time outruns every cooldown. -/
def lostAnswers (cooldown : Nat) : Pattern where
  draw n := ⟨true, n, nthUuid n, .lost "", .lost "", .lost ""⟩
  clock n := n * (cooldown + 1)
  mono := fun _ _ h => Nat.mul_le_mul_right _ h

def World.fresh : World := ⟨[], 0, 0, fun _ => .new⟩

def World.made (w : World) (driver : Driver) : Nat := w.charges.countP (fun c => c.driver = driver)

variable {debug : String → String} {op : ChargeOp} {req : PaymentRequest} {cooldown : Nat}

variable {m n : Nat}

theorem nthUuid_injective (h : nthUuid m = nthUuid n) : m = n := by
  have hlists := congrArg String.toList h
  have hlengths := congrArg List.length hlists
  simpa [nthUuid] using hlengths

theorem generateOrderId_nth (n : Nat) :
    generateOrderId n (nthUuid n) = "QRIS-" ++ toString (n : Int) ++ "-" ++ "000000000000" := by
  have hhex : (nthUuid n).toList.filter (fun c => c ≠ '-') =
      List.replicate n 'a' ++ List.replicate 12 '0' := by
    rw [nthUuid, String.toList_ofList, List.filter_eq_self.mpr]
    intro c hc
    rcases List.mem_append.mp hc with ha | hzero
    · rw [List.eq_of_mem_replicate ha]
      decide
    · rw [List.eq_of_mem_replicate hzero]
      decide
  have htail : (List.replicate n 'a' ++ List.replicate 12 '0').drop
      ((List.replicate n 'a' ++ List.replicate 12 '0').length - 12) = List.replicate 12 '0' := by
    simp
  unfold generateOrderId
  rw [hhex]
  dsimp only
  rw [htail]
  rfl

theorem generateOrderId_injective
    (h : generateOrderId m (nthUuid m) = generateOrderId n (nthUuid n)) : m = n := by
  rw [generateOrderId_nth, generateOrderId_nth] at h
  have hlists := congrArg String.toList h
  simp only [String.toList_append, List.append_cancel_right_eq, List.append_cancel_left_eq]
    at hlists
  change m.repr.toList = n.repr.toList at hlists
  rw [Nat.toList_repr, Nat.toList_repr] at hlists
  have hvalues := congrArg (fun digits => Nat.ofDigitChars 10 digits 0) hlists
  simpa only [Nat.ofDigitChars_ten_toDigits] using hvalues

variable {driver : Driver}

theorem keyFor_minted (h : driver.stableKey req = none)
    (hkey : driver.kind.keyFor req ((lostAnswers cooldown).draw m) =
      driver.kind.keyFor req ((lostAnswers cooldown).draw n)) :
    m = n ∨ driver.kind.keyFor req ((lostAnswers cooldown).draw n) = none := by
  unfold Driver.stableKey at h
  unfold DriverKind.keyFor at hkey ⊢
  cases hkind : driver.kind with
  | stripe =>
    simp only [hkind] at h
    exact .inr h
  | square =>
    simp only [hkind] at h
    simp only [hkind, h, Option.getD_none, Option.some.injEq] at hkey
    exact .inl (nthUuid_injective hkey)
  | qris =>
    simp only [hkind] at h
    split at h
    · rename_i hnone
      simp only [hkind, orderIdFor, hnone, if_true, Option.some.injEq] at hkey
      exact .inl (generateOrderId_injective hkey)
    · cases h
  | paddle => exact .inr rfl

/-- Breakers that opened did so in the past, and keys that were minted are of earlier requests. -/
structure Ready (cooldown : Nat) (req : PaymentRequest) (w : World) : Prop where
  cooled : ∀ id, (w.breakers id).state = .opened →
    ∃ m < w.reads, (w.breakers id).openedAt = some (m * (cooldown + 1))
  minted : ∀ c ∈ w.charges, c.driver.stableKey req = none →
    ∃ m < w.sent, c.key = c.driver.kind.keyFor req ((lostAnswers cooldown).draw m)

/-- Charges only come to be; the driver's gateway has one, and without a key `n` more. -/
structure Grown (req : PaymentRequest) (driver : Driver) (n : Nat) (w w' : World) : Prop where
  mono : ∀ other, w.made other ≤ w'.made other
  some : 1 ≤ w'.made driver
  more : driver.stableKey req = none → w.made driver + n ≤ w'.made driver

theorem run_lost {driver : Driver} (h : driver.kind ≠ .paddle) (w : World) :
    driver.run debug (lostAnswers cooldown) req op w =
      ({ w with
          sent := w.sent + 1
          charges := place true
            ⟨driver, driver.kind.keyFor req ((lostAnswers cooldown).draw w.sent), req.amount⟩
            w.charges }, .error (.network "")) := by
  have hlost : ∀ n, (lostAnswers cooldown).draw n =
      ⟨true, n, nthUuid n, .lost "", .lost "", .lost ""⟩ := fun _ => rfl
  cases hkind : driver.kind with
  | paddle => exact absurd hkind h
  | stripe =>
    cases op with
    | authorize =>
      simp [Driver.run, Driver.authorize, Driver.sendCharge, hkind, hlost, readStripe]
    | sale =>
      simp [Driver.run, Driver.sale, Driver.authorize, Driver.sendCharge, hkind, hlost, readStripe]
  | square =>
    cases op with
    | authorize =>
      simp [Driver.run, Driver.authorize, Driver.sendCharge, hkind, hlost, readSquare]
    | sale =>
      simp [Driver.run, Driver.sale, Driver.authorize, Driver.sendCharge, hkind, hlost, readSquare]
  | qris =>
    cases op with
    | authorize =>
      simp [Driver.run, Driver.authorize, Driver.sendCharge, hkind, hlost, readCharge, Except.bind]
    | sale =>
      simp [Driver.run, Driver.sale, Driver.sendCharge, hkind, hlost, readCharge, Except.bind]

theorem made_place (created : Bool) (c : Charge) (charges : List Charge) (other : Driver) :
    charges.countP (fun c => c.driver = other) ≤
      (place created c charges).countP (fun c => c.driver = other) := by
  unfold place
  split
  · rw [List.countP_cons]
    omega
  · exact Nat.le_refl _

theorem grown_run {driver : Driver} (h : driver.kind ≠ .paddle) {w : World}
    (hready : Ready cooldown req w) :
    Ready cooldown req (driver.run debug (lostAnswers cooldown) req op w).1 ∧
      Grown req driver 1 w (driver.run debug (lostAnswers cooldown) req op w).1 := by
  rw [run_lost h]
  constructor
  · refine ⟨hready.cooled, ?_⟩
    intro c hc hkey
    have hmem : c = ⟨driver, driver.kind.keyFor req ((lostAnswers cooldown).draw w.sent),
        req.amount⟩ ∨ c ∈ w.charges := by
      simp only [place] at hc
      split at hc
      · exact List.mem_cons.mp hc
      · exact .inr hc
    rcases hmem with rfl | hold
    · exact ⟨w.sent, Nat.lt_succ_self _, rfl⟩
    · obtain ⟨m, hm, hckey⟩ := hready.minted c hold hkey
      exact ⟨m, Nat.lt_succ_of_lt hm, hckey⟩
  · refine ⟨fun other => made_place _ _ _ other, ?_, ?_⟩
    · show 1 ≤ (place _ _ _).countP _
      apply List.countP_pos_iff.mpr
      by_cases hcharged : chargedFor w.charges driver
          (driver.kind.keyFor req ((lostAnswers cooldown).draw w.sent)) = true
      · have hany := (Bool.and_eq_true_iff.mp hcharged).2
        obtain ⟨c, hc, hsame⟩ := List.any_eq_true.mp hany
        refine ⟨c, ?_, (Bool.and_eq_true_iff.mp hsame).1⟩
        simpa [place, hcharged] using hc
      · exact ⟨⟨driver, driver.kind.keyFor req ((lostAnswers cooldown).draw w.sent), req.amount⟩,
          by simp [place, hcharged], by simp⟩
    · intro hkey
      have hfree : chargedFor w.charges driver
          (driver.kind.keyFor req ((lostAnswers cooldown).draw w.sent)) = false := by
        by_contra hcharged
        have hcharged' := Bool.and_eq_true_iff.mp (Bool.not_eq_false _ ▸ hcharged)
        obtain ⟨c, hc, hsame⟩ := List.any_eq_true.mp hcharged'.2
        have hboth := Bool.and_eq_true_iff.mp hsame
        have hdriver : c.driver = driver := of_decide_eq_true hboth.1
        have hckey := of_decide_eq_true hboth.2
        obtain ⟨m, hm, hminted⟩ := hready.minted c hc (by rw [hdriver]; exact hkey)
        rw [hdriver, hckey] at hminted
        rcases keyFor_minted hkey hminted.symm with heq | hnone
        · omega
        · rw [hnone] at hcharged'
          simp at hcharged'
      show w.charges.countP _ + 1 ≤ (place _ _ _).countP _
      simp [place, hfree]

variable {w : World}

theorem Grown.trans {w' w'' : World} (h : Grown req driver m w w')
    (h' : Grown req driver n w' w'') : Grown req driver (m + n) w w'' := by
  refine ⟨fun other => (h.mono other).trans (h'.mono other), h'.some, ?_⟩
  intro hkey
  have hfirst := h.more hkey
  have hsecond := h'.more hkey
  omega

theorem Ready.afterReading (h : Ready cooldown req w) (id : Nat) (b : Breaker)
    (hb : b.state = .opened → b.openedAt = some (w.reads * (cooldown + 1)) ∨ b = w.breakers id) :
    Ready cooldown req (w.tick.setBreaker id b) := by
  refine ⟨?_, h.minted⟩
  intro i hopened
  simp only [World.setBreaker, World.tick] at hopened ⊢
  by_cases hi : i = id
  · simp only [hi, if_true] at hopened ⊢
    rcases hb hopened with hnow | hsame
    · exact ⟨w.reads, Nat.lt_succ_self _, hnow⟩
    · rw [hsame] at hopened ⊢
      obtain ⟨m, hm, hat⟩ := h.cooled id hopened
      exact ⟨m, Nat.lt_succ_of_lt hm, hat⟩
  · simp only [hi, if_false] at hopened ⊢
    obtain ⟨m, hm, hat⟩ := h.cooled i hopened
    exact ⟨m, Nat.lt_succ_of_lt hm, hat⟩

theorem recordFailure_opened (b : Breaker) (threshold now : Nat) (isTransient : Bool)
    (h : (b.recordFailure threshold now isTransient).state = .opened) :
    (b.recordFailure threshold now isTransient).openedAt = some now ∨
      (b.recordFailure threshold now isTransient).openedAt = b.openedAt ∧ b.state = .opened := by
  unfold Breaker.recordFailure at h ⊢
  split
  · rename_i hterminal
    simp only [hterminal, if_true] at h
    exact .inr ⟨rfl, h⟩
  · rename_i htransient
    simp only [htransient] at h
    dsimp only
    split
    · exact .inl rfl
    · rename_i hbelow
      simp only [hbelow, if_false] at h
      exact .inr ⟨rfl, h⟩

theorem Ready.failed (h : Ready cooldown req w) (id threshold : Nat) (isTransient : Bool) :
    Ready cooldown req (w.tick.setBreaker id ((w.breakers id).recordFailure threshold
      ((lostAnswers cooldown).clock w.reads) isTransient)) := by
  refine ⟨?_, h.minted⟩
  intro i hopened
  simp only [World.setBreaker, World.tick] at hopened ⊢
  by_cases hi : i = id
  · simp only [hi, if_true] at hopened ⊢
    rcases recordFailure_opened _ _ _ _ hopened with hnow | ⟨hsame, hbefore⟩
    · exact ⟨w.reads, Nat.lt_succ_self _, hnow⟩
    · obtain ⟨m, hm, hat⟩ := h.cooled id hbefore
      exact ⟨m, Nat.lt_succ_of_lt hm, hsame.trans hat⟩
  · simp only [hi, if_false] at hopened ⊢
    obtain ⟨m, hm, hat⟩ := h.cooled i hopened
    exact ⟨m, Nat.lt_succ_of_lt hm, hat⟩

theorem Ready.observed (h : Ready cooldown req w) (id : Nat) {cooldownMs : Nat}
    (hle : cooldownMs ≤ cooldown) :
    ((w.breakers id).observed cooldownMs ((lostAnswers cooldown).clock w.reads)).state ≠ .opened ∧
      Ready cooldown req (w.tick.setBreaker id
        ((w.breakers id).observed cooldownMs ((lostAnswers cooldown).clock w.reads))) := by
  have hclosed : ((w.breakers id).observed cooldownMs
      ((lostAnswers cooldown).clock w.reads)).state ≠ .opened := by
    unfold Breaker.observed
    cases hstate : (w.breakers id).state with
    | closed => simp [hstate]
    | halfOpen => simp [hstate]
    | opened =>
      obtain ⟨m, hm, hat⟩ := h.cooled id hstate
      rw [hat]
      have helapsed : cooldownMs ≤ (lostAnswers cooldown).clock w.reads - m * (cooldown + 1) := by
        have hsucc : (m + 1) * (cooldown + 1) ≤ w.reads * (cooldown + 1) :=
          Nat.mul_le_mul_right _ hm
        have hclock : (lostAnswers cooldown).clock w.reads = w.reads * (cooldown + 1) := rfl
        have hexpand : (m + 1) * (cooldown + 1) = m * (cooldown + 1) + (cooldown + 1) :=
          Nat.succ_mul _ _
        omega
      simp [helapsed]
  exact ⟨hclosed, h.afterReading id _ (fun hopened => absurd hopened hclosed)⟩

theorem retryLoop_lost (h : driver.kind ≠ .paddle)
    (config : ResilientProcessorConfig) (breaker retries attempt : Nat)
    (hready : Ready cooldown req w)
    (hresult : (retryLoop config breaker (lostAnswers cooldown)
      (driver.run debug (lostAnswers cooldown) req op) retries attempt w).result ≠ none) :
    (∀ n, attempt < n → n ≤ attempt + retries → (config.backoffMs n).isSome) ∧
      (retryLoop config breaker (lostAnswers cooldown)
        (driver.run debug (lostAnswers cooldown) req op) retries attempt w).result =
        some (.error (.network "")) ∧
      Ready cooldown req (retryLoop config breaker (lostAnswers cooldown)
        (driver.run debug (lostAnswers cooldown) req op) retries attempt w).world ∧
      Grown req driver (retries + 1) w (retryLoop config breaker (lostAnswers cooldown)
        (driver.run debug (lostAnswers cooldown) req op) retries attempt w).world := by
  obtain ⟨hnext, hgrown⟩ := @grown_run debug op req cooldown driver h w hready
  have hlost := @run_lost debug op req cooldown driver h w
  induction retries generalizing attempt w with
  | zero =>
    unfold retryLoop
    rw [hlost] at hnext hgrown ⊢
    refine ⟨fun n hlt hle => by omega, rfl, hnext.failed _ _ _, ?_⟩
    exact ⟨hgrown.mono, hgrown.some, hgrown.more⟩
  | succ retries ih =>
    unfold retryLoop at hresult ⊢
    rw [hlost] at hnext hgrown hresult ⊢
    simp only [PaymentError.classify, decide_true, if_true] at hresult ⊢
    cases hbackoff : config.backoffMs (attempt + 1) with
    | none => simp [hbackoff] at hresult
    | some ms =>
      simp only [hbackoff] at hresult ⊢
      obtain ⟨hrunReady, hrunGrown⟩ := @grown_run debug op req cooldown driver h _ hnext
      obtain ⟨hbackoffs, hrest, hfinal, hgrownRest⟩ :=
        ih (attempt + 1) hnext hresult hrunReady hrunGrown (run_lost h _)
      refine ⟨?_, hrest, hfinal, ?_⟩
      · intro n hlt hle
        by_cases hfirst : n = attempt + 1
        · rw [hfirst, hbackoff]
          rfl
        · exact hbackoffs n (by omega) (by omega)
      · have htotal := hgrown.trans hgrownRest
        rwa [Nat.add_comm] at htotal

def Processor.cooldownMs (p : Processor) : Nat :=
  match p.resilience with
  | none => 0
  | some (config, _) => config.cooldownMs

theorem processor_lost {p : Processor} (h : p.driver.kind ≠ .paddle)
    (hcooldown : p.cooldownMs ≤ cooldown) (hready : Ready cooldown req w)
    (hresult : (p.run debug (lostAnswers cooldown) op req w).result ≠ none) :
    (∀ config breaker, p.resilience = some (config, breaker) → config.Fits) ∧
      (p.run debug (lostAnswers cooldown) op req w).result = some (.error (.network "")) ∧
      Ready cooldown req (p.run debug (lostAnswers cooldown) op req w).world ∧
      Grown req p.driver (p.maxRetries + 1) w
        (p.run debug (lostAnswers cooldown) op req w).world := by
  unfold Processor.run Processor.maxRetries at *
  unfold Processor.cooldownMs at hcooldown
  cases hwrapped : p.resilience with
  | none =>
    obtain ⟨hnext, hgrown⟩ := @grown_run debug op req cooldown p.driver h w hready
    refine ⟨?_, ?_, hnext, hgrown⟩
    · intro config breaker hsome
      cases hsome
    · dsimp only
      rw [run_lost h]
  | some wrapped =>
    obtain ⟨config, breaker⟩ := wrapped
    simp only [hwrapped] at hresult hcooldown ⊢
    obtain ⟨hclosed, hseen⟩ := hready.observed breaker hcooldown
    unfold executeWithResilience at hresult ⊢
    simp only [hclosed, if_false] at hresult ⊢
    obtain ⟨hbackoffs, hfailed, hfinal, hgrown⟩ :=
      retryLoop_lost h config breaker config.maxRetries 0 hseen hresult
    refine ⟨?_, hfailed, hfinal, hgrown.mono, hgrown.some, hgrown.more⟩
    intro config' breaker' hsome
    cases hsome
    exact (fits_iff config).mpr (fun n hpos hle => hbackoffs n hpos (by omega))

theorem processor_stub {p : Processor} (h : p.driver.kind = .paddle)
    (hcooldown : p.cooldownMs ≤ cooldown) {w : World} (hready : Ready cooldown req w) :
    ∃ text, (p.run debug (lostAnswers cooldown) op req w).result =
        some (.error (.unsupported text)) ∧
      Ready cooldown req (p.run debug (lostAnswers cooldown) op req w).world ∧
      (p.run debug (lostAnswers cooldown) op req w).world.charges = w.charges := by
  have hcharges := @processor_kept debug (lostAnswers cooldown) op req
    (fun charges => charges = w.charges) p
    (fun w' hw' => by rw [run_paddle h]; exact hw') w rfl
  unfold Processor.cooldownMs at hcooldown
  unfold Processor.run at hcharges ⊢
  cases hwrapped : p.resilience with
  | none =>
    simp only [hwrapped] at hcharges
    dsimp only
    rw [run_paddle h]
    exact ⟨_, rfl, hready, rfl⟩
  | some wrapped =>
    obtain ⟨config, breaker⟩ := wrapped
    simp only [hwrapped] at hcharges hcooldown ⊢
    obtain ⟨hclosed, hseen⟩ := hready.observed breaker hcooldown
    unfold executeWithResilience at hcharges ⊢
    simp only [hclosed, if_false] at hcharges ⊢
    refine ⟨"Paddle authorize — PLANNED, not implemented yet", ?_, ?_, hcharges⟩
    · unfold retryLoop
      rw [run_paddle h]
      cases config.maxRetries with
      | zero => rfl
      | succ retries => simp [PaymentError.classify]
    · unfold retryLoop
      rw [run_paddle h]
      cases config.maxRetries with
      | zero => exact hseen.failed _ _ _
      | succ retries =>
        simp only [PaymentError.classify, reduceCtorEq, decide_false, Bool.false_eq_true, if_false]
        exact hseen.failed _ _ _

def callsOf (driver : Driver) (chain : List Processor) : Nat :=
  ((chain.filter (fun p => p.driver = driver)).map (fun p => p.maxRetries + 1)).sum

theorem fallbackLoop_lost {method : String} {chain : List Processor}
    (hcooldown : ∀ p ∈ chain, p.cooldownMs ≤ cooldown) (last : Option PaymentError)
    (hready : Ready cooldown req w)
    (hresult : (fallbackLoop debug (lostAnswers cooldown) op req method chain last w).result ≠
      none) :
    (∀ p ∈ charging chain, ∀ config breaker, p.resilience = some (config, breaker) →
      config.Fits) ∧
    (∀ driver, w.made driver ≤
      (fallbackLoop debug (lostAnswers cooldown) op req method chain last w).world.made driver) ∧
    (∀ p ∈ charging chain, 1 ≤ (fallbackLoop debug (lostAnswers cooldown) op req method chain last
      w).world.made p.driver) ∧
    (∀ driver, driver.stableKey req = none → w.made driver + callsOf driver (charging chain) ≤
      (fallbackLoop debug (lostAnswers cooldown) op req method chain last w).world.made driver) := by
  induction chain generalizing last w with
  | nil =>
    refine ⟨?_, fun _ => Nat.le_refl _, ?_, fun _ _ => Nat.le_refl _⟩
    · intro p hp
      cases hp
    · intro p hp
      cases hp
  | cons p chain ih =>
    have hrest := fun q hq => hcooldown q (List.mem_cons_of_mem p hq)
    unfold fallbackLoop at hresult ⊢
    dsimp only at hresult ⊢
    by_cases hstub : p.driver.kind = .paddle
    · obtain ⟨text, hfailed, hnext, hcharges⟩ :=
        @processor_stub debug op req cooldown p hstub (hcooldown p List.mem_cons_self) w hready
      have hsame : charging (p :: chain) = charging chain := by
        simp [charging, hstub]
      have hmade : ∀ driver, (p.run debug (lostAnswers cooldown) op req w).world.made driver =
          w.made driver := by
        intro driver
        unfold World.made
        rw [hcharges]
      simp only [hfailed, PaymentError.classify, PaymentError.isUnsupported, decide_true,
        Bool.not_true, Bool.and_false, Bool.false_eq_true, if_false] at hresult ⊢
      obtain ⟨hfits, hmono, hsome, hmore⟩ := ih hrest (some (.unsupported text)) hnext hresult
      simp only [hmade] at hmono hmore
      rw [hsame]
      exact ⟨hfits, hmono, hsome, hmore⟩
    · have hcall : (p.run debug (lostAnswers cooldown) op req w).result ≠ none := by
        intro hnone
        simp [hnone] at hresult
      obtain ⟨hpFits, hfailed, hnext, hgrown⟩ :=
        processor_lost hstub (hcooldown p List.mem_cons_self) hready hcall
      have hsplit : charging (p :: chain) = p :: charging chain := by
        simp [charging, hstub]
      simp only [hfailed, PaymentError.classify, reduceCtorEq, decide_false, Bool.false_and,
        Bool.false_eq_true, if_false] at hresult ⊢
      obtain ⟨hfits, hmono, hsome, hmore⟩ := ih hrest (some (.network "")) hnext hresult
      rw [hsplit]
      refine ⟨?_, fun driver => (hgrown.mono driver).trans (hmono driver), ?_, ?_⟩
      · intro q hq
        rcases List.mem_cons.mp hq with rfl | hq
        · exact hpFits
        · exact hfits q hq
      · intro q hq
        rcases List.mem_cons.mp hq with rfl | hq
        · exact hgrown.some.trans (hmono _)
        · exact hsome q hq
      · intro driver hkey
        have hafter := hmore driver hkey
        unfold callsOf at hafter ⊢
        rw [List.filter_cons]
        split
        · rename_i hdriver
          have hsame : p.driver = driver := of_decide_eq_true hdriver
          rw [hsame] at hgrown
          have hfirst := hgrown.more hkey
          rw [List.map_cons, List.sum_cons]
          omega
        · have hfirst := hgrown.mono driver
          omega

theorem once_of_made {chain : List Processor} (hlength : w.charges.length ≤ 1)
    (hsome : ∀ p ∈ chain, 1 ≤ w.made p.driver)
    (hmore : ∀ driver, driver.stableKey req = none → callsOf driver chain ≤ w.made driver) :
    (∃ driver, (driver.stableKey req).isSome ∧ ∀ p ∈ chain, p.driver = driver) ∨
      (chain.length ≤ 1 ∧ ∀ p ∈ chain, p.maxRetries = 0) := by
  cases chain with
  | nil => exact .inr ⟨Nat.zero_le _, by simp⟩
  | cons q rest =>
    have hsame : ∀ p ∈ q :: rest, p.driver = q.driver := by
      intro p hp
      obtain ⟨c, hc, hcp⟩ := List.countP_pos_iff.mp (hsome p hp)
      obtain ⟨c', hc', hcq⟩ := List.countP_pos_iff.mp (hsome q List.mem_cons_self)
      have hone : c = c' := by
        cases hcharges : w.charges with
        | nil =>
          rw [hcharges] at hc
          cases hc
        | cons first others =>
          have hothers : others = [] := by
            rw [hcharges] at hlength
            cases others with
            | nil => rfl
            | cons second others =>
              simp only [List.length_cons] at hlength
              omega
          rw [hcharges, hothers] at hc hc'
          rw [List.mem_singleton.mp hc, List.mem_singleton.mp hc']
      rw [← of_decide_eq_true hcp, ← of_decide_eq_true hcq, hone]
    cases hkey : q.driver.stableKey req with
    | some key => exact .inl ⟨q.driver, by rw [hkey]; rfl, hsame⟩
    | none =>
      have hattempts := hmore q.driver hkey
      have hall : (q :: rest).filter (fun p => p.driver = q.driver) = q :: rest :=
        List.filter_eq_self.mpr (fun p hp => by simpa using hsame p hp)
      have hmade : w.made q.driver ≤ 1 := List.countP_le_length.trans hlength
      unfold callsOf at hattempts
      rw [hall, List.map_cons, List.sum_cons] at hattempts
      have hrest : rest = [] := by
        cases rest with
        | nil => rfl
        | cons r rest =>
          rw [List.map_cons, List.sum_cons] at hattempts
          omega
      subst hrest
      refine .inr ⟨Nat.le_refl _, ?_⟩
      intro p hp
      rw [List.mem_singleton.mp hp]
      omega

theorem safe_of_chargesOnce {methodFallbacks : String → List Processor} {method : String}
    (h : ChargesOnce debug methodFallbacks op req method) :
    SafeChain req (methodFallbacks method) := by
  cases hchain : methodFallbacks method with
  | nil => exact ⟨by simp [charging], .inr (by simp [charging])⟩
  | cons p chain =>
    let cooldown := ((p :: chain).map Processor.cooldownMs).sum
    have hcooldown : ∀ q ∈ p :: chain, q.cooldownMs ≤ cooldown := by
      intro q hq
      exact List.single_le_sum (by simp) _ (List.mem_map_of_mem hq)
    have hready : Ready cooldown req .fresh := by
      refine ⟨?_, ?_⟩
      · intro id hopened
        cases hopened
      · intro c hc
        cases hc
    obtain ⟨hresult, hlength, -⟩ := h (lostAnswers cooldown) .fresh
    unfold executeWithFallback at hresult hlength
    rw [hchain] at hresult hlength
    change (fallbackLoop debug (lostAnswers cooldown) op req method (p :: chain) none
      .fresh).result ≠ none at hresult
    change (fallbackLoop debug (lostAnswers cooldown) op req method (p :: chain) none
      .fresh).world.charges.length ≤ 1 at hlength
    obtain ⟨hfits, -, hsome, hmore⟩ := fallbackLoop_lost hcooldown none hready hresult
    refine ⟨hfits, once_of_made hlength hsome ?_⟩
    intro driver hkey
    exact (Nat.le_add_left _ _).trans (hmore driver hkey)

/-- A call charges once however the gateways answer just when its chain is safe for the request. -/
theorem chargesOnce_iff (debug : String → String) (methodFallbacks : String → List Processor)
    (op : ChargeOp) (req : PaymentRequest) (method : String) :
    ChargesOnce debug methodFallbacks op req method ↔ SafeChain req (methodFallbacks method) :=
  ⟨safe_of_chargesOnce, chargesOnce_of_safe⟩

/-- Stripe charges and its answer gets lost; the same key is then charged at Square. -/
def secondGateway : Pattern where
  draw n := ⟨true, 1767225600, "019b7a3c-5e20-7d1f-8a4b-3c2d1e0f9a8b",
    if n = 0 then .lost "operation timed out" else .answered ⟨"pi_1", 5000, none, "usd", "succeeded"⟩,
    .answered ⟨"sq_1", "COMPLETED", 5000, "USD"⟩, .lost "operation timed out"⟩
  clock n := n
  mono := fun _ _ h => h

theorem fallback_chargesTwice :
    ¬ ∀ debug methodFallbacks op req method,
      ChargesOnce debug methodFallbacks op req method := by
  intro h
  obtain ⟨-, hlength, -⟩ := h id (fun _ => [⟨⟨.stripe, "acct_1"⟩, none⟩, ⟨⟨.square, "L1"⟩, none⟩])
    .authorize ⟨5000, some "019b7a3c-5e1f-7c2a-9d3e-4f5a6b7c8d9e"⟩ "card" secondGateway .fresh
  exact absurd hlength (by decide)

end OzPos
