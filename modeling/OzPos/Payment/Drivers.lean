import OzPos.Client.Catalog

namespace OzPos

inductive PaymentError where
  | declined (text : String)
  | timeout (ms : Nat)
  | network (text : String)
  | invalidResponse (text : String)
  | invalidCard (text : String)
  | expired (text : String)
  | duplicate (text : String)
  | unsupported (text : String)

inductive ErrorClass where
  | transient
  | terminal
  | deferred
  deriving DecidableEq

def PaymentError.classify : PaymentError → ErrorClass
  | .timeout _ | .network _ => .transient
  | .expired _ => .deferred
  | .declined _ | .invalidResponse _ | .invalidCard _ | .duplicate _ | .unsupported _ => .terminal

def PaymentError.isUnsupported : PaymentError → Bool
  | .unsupported _ => true
  | _ => false

/-- An answer that got lost, one that is no success (with the body as the gateway's error, where it
can be read as one), a success that cannot be read, and one that can. -/
inductive HttpReply (β ε : Type) where
  | lost (text : String)
  | failed (status : Nat) (text : String) (error : Option ε)
  | unreadable (error text : String)
  | answered (body : β)

structure StripeError where
  errorType : String
  (message code : Option String)

structure PaymentIntent where
  id : String
  amount : Int
  amountReceived : Option Int
  (currency status : String)

structure SquareError where
  (code detail : Option String)

structure SquarePayment where
  (id status : String)
  amount : Int
  currency : String

structure MidtransError where
  (statusCode statusMessage : String)

structure QrisCharge where
  (orderId grossAmount transactionStatus statusCode statusMessage : String)
  qrCodeUrl : Option String

structure PaymentRequest where
  amount : Int
  idempotencyKey : Option String

structure PaymentResult where
  success : Bool
  transactionId : Option String
  amountCharged : Int
  currency : String
  message : Option String

inductive DriverKind where
  | stripe
  | square
  | qris
  | paddle
  deriving DecidableEq

structure Driver where
  kind : DriverKind
  account : String
  deriving DecidableEq

structure Charge where
  driver : Driver
  key : Option String
  amount : Int

/-- What happens with the `n`-th request to a gateway: whether it makes the charge, what it answers,
and what a driver takes for a fresh key. -/
structure NetDraw where
  created : Bool
  timestamp : Int
  uuid : String
  stripe : HttpReply PaymentIntent StripeError
  square : HttpReply SquarePayment (List SquareError)
  qris : HttpReply QrisCharge MidtransError

/-- What a call comes upon: the gateways, and the readings of the clock. -/
structure Pattern where
  draw : Nat → NetDraw
  clock : Nat → Nat
  mono : Monotone clock

variable (req : PaymentRequest)

def PaymentRequest.callerKey : Option String :=
  req.idempotencyKey.bind (fun key => if trim key = "" then none else some key)

def generateOrderId (timestamp : Int) (uuid : String) : String :=
  let uuidHex := uuid.toList.filter (fun c => c ≠ '-')
  "QRIS-" ++ toString timestamp ++ "-" ++ String.ofList (uuidHex.drop (uuidHex.length - 12))

def isAsciiAlphanumeric (c : Char) : Bool :=
  ('a' ≤ c && c ≤ 'z') || ('A' ≤ c && c ≤ 'Z') || ('0' ≤ c && c ≤ '9')

def orderKey : List Char :=
  ((req.idempotencyKey.getD "").toList.filter
    (fun c => isAsciiAlphanumeric c || c = '-' || c = '_')).take 44

def orderIdFor (d : NetDraw) : String :=
  if orderKey req = [] then generateOrderId d.timestamp d.uuid
  else "QRIS-" ++ String.ofList (orderKey req)

/-- The key that a charge is sent with: Stripe's is left out where the caller gives none. -/
def DriverKind.keyFor (d : NetDraw) : DriverKind → Option String
  | .stripe => req.callerKey
  | .square => some (req.callerKey.getD d.uuid)
  | .qris => some (orderIdFor req d)
  | .paddle => none

def classifyStripeError (e : StripeError) : PaymentError :=
  let msg := e.message.getD e.errorType
  if e.errorType = "card_error" then
    if e.code = some "expired_card" ∨ e.code = some "incorrect_number" ∨
      e.code = some "incorrect_cvc" ∨ e.code = some "incorrect_zip" then .invalidCard msg
    else .declined msg
  else if e.errorType = "idempotency_error" then .duplicate msg
  else if e.errorType ∈ ["invalid_request_error", "api_error", "api_connection_error",
      "authentication_error", "rate_limit_error"] then .network msg
  else .network ("stripe_error: " ++ msg)

def httpError (status : Nat) (text : String) : PaymentError :=
  .network ("HTTP " ++ toString status ++ ": " ++ text)

def gatewayCurrency (code : String) : Except PaymentError String :=
  match parseCurrency code with
  | some currency => .ok currency
  | none => .error (.network ("unknown gateway currency code: " ++ code))

def intentResult (intent : PaymentIntent) : Except PaymentError PaymentResult :=
  (gatewayCurrency intent.currency).map (fun currency =>
    { success := intent.status = "succeeded" || intent.status = "requires_capture"
      transactionId := some intent.id
      amountCharged := intent.amountReceived.getD intent.amount
      currency := currency
      message := some intent.status })

def readStripe : HttpReply PaymentIntent StripeError → Except PaymentError PaymentResult
  | .lost text => .error (.network text)
  | .failed status text error => .error ((error.map classifyStripeError).getD (httpError status text))
  | .unreadable error text =>
    .error (.network ("failed to parse PaymentIntent: " ++ error ++ " -- body: " ++ text))
  | .answered intent => intentResult intent

def classifySquareError (e : SquareError) : PaymentError :=
  let msg := e.detail.getD (e.code.getD "unknown")
  match e.code with
  | none => .network msg
  | some code =>
    if code ∈ ["CARD_DECLINED", "VERIFY_CVV_FAILURE", "VERIFY_AVS_FAILURE", "INVALID_EXPIRATION",
        "INVALID_CARD", "CARD_EXPIRED", "INVALID_PIN", "INVALID_ACCOUNT",
        "CARDHOLDER_VERIFICATION_REQUIRED"] then .declined msg
    else if code ∈ ["INVALID_LOCATION", "MISSING_REQUIRED_PARAMETER", "UNSUPPORTED_CARD_BRAND",
        "CARD_NOT_SUPPORTED", "UNSUPPORTED_ENTRY_METHOD"] then .invalidCard msg
    else if code ∈ ["DUPLICATE_CARD", "IDEMPOTENCY_KEY_REUSED"] then .duplicate msg
    else if code ∈ ["TIMEOUT", "GATEWAY_TIMEOUT"] then .timeout 30000
    else .network msg

def squareError (status : Nat) (text : String) : Option (List SquareError) → PaymentError
  | none => httpError status text
  | some [] => .network ("square_error: HTTP " ++ toString status)
  | some (e :: _) => classifySquareError e

def squareResult (payment : SquarePayment) : Except PaymentError PaymentResult :=
  (gatewayCurrency payment.currency).map (fun currency =>
    { success := payment.status = "COMPLETED" || payment.status = "APPROVED"
      transactionId := some payment.id
      amountCharged := payment.amount
      currency := currency
      message := some payment.status })

def readSquare : HttpReply SquarePayment (List SquareError) → Except PaymentError PaymentResult
  | .lost text => .error (.network text)
  | .failed status text error => .error (squareError status text error)
  | .unreadable error text =>
    .error (.network ("failed to parse Payment: " ++ error ++ " — body: " ++ text))
  | .answered payment => squareResult payment

def classifyMidtransStatus (e : MidtransError) : PaymentError :=
  let coded := e.statusMessage ++ " (code: " ++ e.statusCode ++ ")"
  if e.statusCode = "402" then .invalidCard ("midtrans card error: " ++ coded)
  else if e.statusCode = "406" then .duplicate ("midtrans duplicate: " ++ coded)
  else if e.statusMessage = "" then .network ("midtrans_error: HTTP " ++ e.statusCode)
  else .network ("midtrans_error: " ++ coded)

/-- `str::parse::<i64>`. -/
def parseI64 (text : String) : Option Int :=
  let (negative, digits) := match text.toList with
    | '-' :: digits => (true, digits)
    | '+' :: digits => (false, digits)
    | digits => (false, digits)
  if digits = [] ∨ !digits.all Char.isDigit then none
  else
    let n : Int := digits.foldl (fun n c => n * 10 + (c.toNat - '0'.toNat)) 0
    let value := if negative then -n else n
    if -9223372036854775808 ≤ value ∧ value ≤ 9223372036854775807 then some value else none

def splitPoint (text : String) : String × String :=
  (String.ofList (text.toList.takeWhile (fun c => c ≠ '.')),
    String.ofList ((text.toList.dropWhile (fun c => c ≠ '.')).drop 1))

variable (debug : String → String)

/-- `gross_amount` in whole Rupiah; `debug` is how Rust prints the text. -/
def QrisCharge.parseAmount (text : String) : Except PaymentError Int :=
  let (major, frac) := splitPoint (trim text)
  let fracOk := match parseI64 frac with
    | some f => f = 0
    | none => frac = ""
  if 2 < frac.utf8ByteSize ∨ !fracOk then
    .error (.invalidResponse ("sub-minor gross_amount not representable in IDR: " ++ debug text))
  else
    match parseI64 major with
    | some amount => .ok amount
    | none => .error (.invalidResponse ("unparseable gross_amount: " ++ debug text))

def readCharge : HttpReply QrisCharge MidtransError → Except PaymentError QrisCharge
  | .lost text => .error (.network text)
  | .failed status text error =>
    .error ((error.map classifyMidtransStatus).getD (httpError status text))
  | .unreadable error text =>
    .error (.invalidResponse
      ("failed to parse QRIS charge response: " ++ error ++ " — body: " ++ text))
  | .answered charge => .ok charge

def qrisAuthorize (charge : QrisCharge) : Except PaymentError PaymentResult :=
  (QrisCharge.parseAmount debug charge.grossAmount).map (fun amount =>
    { success := charge.statusCode = "201" || charge.statusCode = "200"
      transactionId := some charge.orderId
      amountCharged := amount
      currency := "IDR"
      message := some (match charge.qrCodeUrl with
        | some url => charge.transactionStatus ++ "|" ++ url
        | none => charge.transactionStatus) })

def qrisSale (charge : QrisCharge) : Except PaymentError PaymentResult :=
  if charge.statusCode ≠ "201" ∧ charge.statusCode ≠ "200" then
    .error (httpError 400 ("charge failed: " ++ charge.statusMessage))
  else
    (QrisCharge.parseAmount debug charge.grossAmount).map (fun amount =>
      { success := true
        transactionId := some charge.orderId
        amountCharged := amount
        currency := "IDR"
        message := some (match charge.qrCodeUrl with
          | some url => "SCAN_QR|" ++ charge.orderId ++ "|" ++ url
          | none => "SCAN_QR|" ++ charge.orderId) })

def chargedFor (charges : List Charge) (driver : Driver) (key : Option String) : Bool :=
  key.isSome && charges.any (fun c => c.driver = driver && c.key = key)

def place (created : Bool) (c : Charge) (charges : List Charge) : List Charge :=
  if created && !chargedFor charges c.driver c.key then c :: charges else charges

inductive CircuitState where
  | closed
  | opened
  | halfOpen
  deriving DecidableEq

structure Breaker where
  state : CircuitState
  consecutiveFailures : Nat
  openedAt : Option Nat

/-- The charges made so far, how many requests were sent and how often the clock was read, and the
circuit breakers. -/
structure World where
  charges : List Charge
  (sent reads : Nat)
  breakers : Nat → Breaker

inductive ChargeOp where
  | authorize
  | sale

namespace Driver

variable (debug : String → String) (pat : Pattern) (req : PaymentRequest) (driver : Driver)

variable (w : World)

def sendCharge : World × NetDraw :=
  let d := pat.draw w.sent
  ({ w with
      sent := w.sent + 1
      charges := place d.created ⟨driver, driver.kind.keyFor req d, req.amount⟩ w.charges }, d)

/-- The charge that `authorize` makes. -/
def authorize (w : World) : World × Except PaymentError PaymentResult :=
  match driver.kind with
  | .stripe =>
    let (w, d) := driver.sendCharge pat req w
    (w, readStripe d.stripe)
  | .square =>
    let (w, d) := driver.sendCharge pat req w
    (w, readSquare d.square)
  | .qris =>
    let (w, d) := driver.sendCharge pat req w
    (w, (readCharge d.qris).bind (qrisAuthorize debug))
  | .paddle => (w, .error (.unsupported "Paddle authorize — PLANNED, not implemented yet"))

/-- What Stripe and Square do with an authorized payment; it makes no charge. -/
def capture : World × Except PaymentError PaymentResult :=
  let d := pat.draw w.sent
  let w := { w with sent := w.sent + 1 }
  match driver.kind with
  | .square => (w, readSquare d.square)
  | _ => (w, readStripe d.stripe)

/-- QRIS issues its code and is done; the others capture what they authorized. -/
def sale : World × Except PaymentError PaymentResult :=
  match driver.kind with
  | .qris =>
    let (w, d) := driver.sendCharge pat req w
    (w, (readCharge d.qris).bind (qrisSale debug))
  | _ =>
    match driver.authorize debug pat req w with
    | (w, .error e) => (w, .error e)
    | (w, .ok auth) =>
      if auth.success && auth.transactionId.isSome then driver.capture pat w else (w, .ok auth)

def run : ChargeOp → World → World × Except PaymentError PaymentResult
  | .authorize => driver.authorize debug pat req
  | .sale => driver.sale debug pat req

end Driver

structure ResilientProcessorConfig where
  (maxRetries initialBackoffMs maxBackoffMs failureThreshold cooldownMs : Nat)

namespace Breaker

variable (b : Breaker)

def new : Breaker := ⟨.closed, 0, none⟩

def observed (cooldownMs now : Nat) : Breaker :=
  match b.state, b.openedAt with
  | .opened, some opened => if cooldownMs ≤ now - opened then { b with state := .halfOpen } else b
  | _, _ => b

def recordSuccess (_ : Breaker) : Breaker := new

def recordFailure (threshold now : Nat) (isTransient : Bool) : Breaker :=
  if !isTransient then b
  else
    let failures := min (b.consecutiveFailures + 1) 4294967295
    if threshold ≤ failures then ⟨.opened, failures, some now⟩
    else { b with consecutiveFailures := failures }

end Breaker

namespace World

variable (w : World)

def tick : World := { w with reads := w.reads + 1 }

def setBreaker (id : Nat) (b : Breaker) : World :=
  { w with breakers := fun i => if i = id then b else w.breakers i }

end World

variable (config : ResilientProcessorConfig)

/-- The wait before an attempt, counted from 1; `none` is an overflow of the shift or of the
product, which panics. -/
def ResilientProcessorConfig.backoffMs (attempt : Nat) : Option Nat :=
  if 64 ≤ attempt - 1 then none
  else
    let ms := config.initialBackoffMs * 2 ^ (attempt - 1)
    if 2 ^ 64 ≤ ms then none else some (min ms config.maxBackoffMs)

/-- A processor's run: how often its driver was called, and its result, where `none` is a panic. -/
structure Attempted where
  world : World
  attempts : Nat
  result : Option (Except PaymentError PaymentResult)

def circuitOpen : PaymentError :=
  .network "circuit breaker is open (gateway unavailable, failing fast)"

/-- The loop of `execute_with_resilience` after `attempt` retries, with as many left as `retries`. -/
def retryLoop (config : ResilientProcessorConfig) (breaker : Nat) (pat : Pattern)
    (operation : World → World × Except PaymentError PaymentResult) :
    (retries attempt : Nat) → World → Attempted
  | retries, attempt, w =>
    match operation w with
    | (w, .ok result) =>
      ⟨w.setBreaker breaker (w.breakers breaker).recordSuccess, attempt + 1, some (.ok result)⟩
    | (w, .error e) =>
      let isTransient : Bool := e.classify = .transient
      let failed : Attempted :=
        ⟨w.tick.setBreaker breaker
          ((w.breakers breaker).recordFailure config.failureThreshold (pat.clock w.reads)
            isTransient), attempt + 1, some (.error e)⟩
      match retries with
      | 0 => failed
      | retries + 1 =>
        if isTransient then
          match config.backoffMs (attempt + 1) with
          | none => ⟨w, attempt + 1, none⟩
          | some _ => retryLoop config breaker pat operation retries (attempt + 1) w
        else failed

def executeWithResilience (breaker : Nat) (pat : Pattern)
    (operation : World → World × Except PaymentError PaymentResult) (w : World) : Attempted :=
  let seen := (w.breakers breaker).observed config.cooldownMs (pat.clock w.reads)
  let w := w.tick.setBreaker breaker seen
  if seen.state = .opened then ⟨w, 0, some (.error circuitOpen)⟩
  else retryLoop config breaker pat operation config.maxRetries 0 w

/-- A driver, and the decorator that it may be wrapped in with its circuit breaker. -/
structure Processor where
  driver : Driver
  resilience : Option (ResilientProcessorConfig × Nat)

namespace Processor

variable (debug : String → String) (pat : Pattern) (op : ChargeOp) (req : PaymentRequest)

def maxRetries (p : Processor) : Nat :=
  match p.resilience with
  | none => 0
  | some (config, _) => config.maxRetries

def run (p : Processor) (w : World) : Attempted :=
  match p.resilience with
  | none =>
    let (w, result) := p.driver.run debug pat req op w
    ⟨w, 1, some result⟩
  | some (config, breaker) =>
    executeWithResilience config breaker pat (p.driver.run debug pat req op) w

end Processor

/-- How a chain went: the attempts of its processors in turn, and what came of it. -/
structure FallbackRun where
  world : World
  attempts : List Nat
  result : Option (Except PaymentError PaymentResult)

/-- The loop of `execute_with_fallback` with the last error. -/
def fallbackLoop (debug : String → String) (pat : Pattern) (op : ChargeOp) (req : PaymentRequest)
    (method : String) : List Processor → Option PaymentError → World → FallbackRun
  | [], last, w =>
    ⟨w, [], some (.error (last.getD
      (.unsupported ("all fallback processors failed for '" ++ method ++ "'"))))⟩
  | p :: chain, _, w =>
    let attempted := p.run debug pat op req w
    match attempted.result with
    | none => ⟨attempted.world, [attempted.attempts], none⟩
    | some (.ok result) => ⟨attempted.world, [attempted.attempts], some (.ok result)⟩
    | some (.error e) =>
      -- A terminal error does not switch to another processor, but for what a driver lacks.
      if e.classify = .terminal && !e.isUnsupported then
        ⟨attempted.world, [attempted.attempts], some (.error e)⟩
      else
        let rest := fallbackLoop debug pat op req method chain (some e) attempted.world
        { rest with attempts := attempted.attempts :: rest.attempts }

/-- `methodFallbacks` are the registered chains. -/
def executeWithFallback (debug : String → String) (methodFallbacks : String → List Processor)
    (pat : Pattern) (op : ChargeOp) (req : PaymentRequest) (method : String) (w : World) :
    FallbackRun :=
  match methodFallbacks method with
  | [] =>
    ⟨w, [], some (.error (.unsupported
      ("no payment processors configured for method '" ++ method ++ "'")))⟩
  | chain => fallbackLoop debug pat op req method chain none w

end OzPos
