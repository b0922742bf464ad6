import OzPos.Licensing.Subscription
import OzPos.Library.Run

namespace OzPos

/-- The stamps of the sales and of the audit log, and the wall clock. -/
structure LedgerState where
  (sales auditLog : List String)
  clock : Int

/-- `if a > b { a } else { b }`; texts compare by their code points, as by their bytes. -/
def laterStamp (a b : String) : String := if b < a then a else b

/-- `SELECT MAX(created_at)`. -/
def maxStamp : List String → Option String
  | [] => none
  | stamp :: rest => some (rest.foldl laterStamp stamp)

namespace LedgerState

variable (s : LedgerState)

def stamps : List String := s.sales ++ s.auditLog

def ledgerMax : Option String :=
  match maxStamp s.sales, maxStamp s.auditLog with
  | some a, some b => some (laterStamp a b)
  | some v, none => some v
  | none, some v => some v
  | none, none => none

/-- `compute_max_ledger_timestamp` as it is read back: without a ledger it is the wall clock. -/
def maxLedgerTime (r : Readers) : Option Int :=
  match s.ledgerMax with
  | some stamp => r.rfc3339 stamp
  | none => some s.clock

end LedgerState

namespace TenantSubscription

variable (r : Readers) (sub : TenantSubscription) (s : LedgerState)

def isWithinGracePeriodForConnection : Bool :=
  match s.maxLedgerTime r with
  | some now => sub.isWithinGracePeriodAt r now
  | none => false

def posReadOnlyForConnection : Bool :=
  match s.maxLedgerTime r with
  | some now => sub.posReadOnlyAt r now
  | none => true

def graceDeadline : Option Int :=
  if sub.tier = .free then none
  else (sub.expiresAt.bind r.rfc3339).map (fun expiry => expiry + sub.graceSpan)

end TenantSubscription

inductive LedgerEvent where
  | sale (stamp : String)
  | audit (stamp : String)
  | setClock (now : Int)
  | sweepAuditRetention (cutoff : String)

variable (r : Readers)

/-- A row is stamped with the wall clock, in any rendering of it. -/
def ledgerMachine : Machine LedgerState LedgerEvent Unit where
  step s
    | .sale stamp =>
      (if r.rfc3339 stamp = some s.clock then { s with sales := s.sales ++ [stamp] } else s, ())
    | .audit stamp =>
      (if r.rfc3339 stamp = some s.clock then { s with auditLog := s.auditLog ++ [stamp] } else s,
        ())
    | .setClock now => ({ s with clock := now }, ())
    | .sweepAuditRetention cutoff =>
      ({ s with auditLog := s.auditLog.filter (fun stamp => ¬stamp < cutoff) }, ())

def emptyLedger (clock : Int) : LedgerState := ⟨[], [], clock⟩

/-- The wall clock or a stamp of the ledger is past the deadline. -/
def LedgerState.Past (s : LedgerState) (deadline : Int) : Prop :=
  deadline < s.clock ∨ ∃ stamp ∈ s.stamps, ∃ t ∈ r.rfc3339 stamp, deadline < t

variable (sub : TenantSubscription) (s : LedgerState)

/-- Past the deadline grace is over and, for an active row, the register is read-only. -/
def GraceLapses : Prop :=
  ∀ deadline ∈ sub.graceDeadline r, s.Past r deadline →
    sub.isWithinGracePeriodForConnection r s = false ∧
      (sub.status = "active" → sub.posReadOnlyForConnection r s = true)

structure GraceNotExtended (r : Readers) (sub : TenantSubscription) (clock : Int)
    (events : List LedgerEvent) : Prop where
  lapses : ∀ l rest, events = l ++ rest →
    GraceLapses r sub ((ledgerMachine r).run (emptyLedger clock) l)
  sticks : ∀ l m rest, events = l ++ m ++ rest → sub.status = "active" →
    ∀ deadline ∈ sub.graceDeadline r, ∀ stamp, ∀ t ∈ r.rfc3339 stamp, deadline < t →
    stamp ∈ ((ledgerMachine r).run (emptyLedger clock) l).stamps →
    sub.posReadOnlyForConnection r ((ledgerMachine r).run (emptyLedger clock) l) = true →
    stamp ∈ ((ledgerMachine r).run (emptyLedger clock) (l ++ m)).stamps →
    sub.posReadOnlyForConnection r ((ledgerMachine r).run (emptyLedger clock) (l ++ m)) = true

/-- The stamp greatest as a text tells the end of grace whenever the clock or a stamp does. -/
def LedgerTells : Prop :=
  sub.status = "canceled" ∨ sub.status = "revoked" ∨ s.stamps = [] ∨
    ∀ deadline ∈ sub.graceDeadline r, s.Past r deadline →
      ∃ top ∈ s.stamps, (∀ stamp ∈ s.stamps, stamp ≤ top) ∧
        ∃ t ∈ r.rfc3339 top, sub.trialOver r t = true ∨ deadline < t

theorem laterStamp_eq_max (a b : String) : laterStamp a b = max b a := by
  unfold laterStamp
  split
  · rename_i h
    exact (max_eq_right h.le).symm
  · rename_i h
    exact (max_eq_left (not_lt.mp h)).symm

theorem foldl_laterStamp (stamp : String) (rest : List String) :
    rest.foldl laterStamp stamp ∈ stamp :: rest ∧
      ∀ other ∈ stamp :: rest, other ≤ rest.foldl laterStamp stamp := by
  induction rest generalizing stamp with
  | nil => simp
  | cons next rest ih =>
    obtain ⟨hmem, hmax⟩ := ih (laterStamp stamp next)
    rw [List.foldl_cons]
    have hstamp : stamp ≤ laterStamp stamp next := by simp [laterStamp_eq_max]
    have hnext : next ≤ laterStamp stamp next := by simp [laterStamp_eq_max]
    have htop := hmax _ List.mem_cons_self
    constructor
    · rcases List.mem_cons.mp hmem with heq | hrest
      · rw [heq, laterStamp]
        split <;> simp
      · simp [hrest]
    · intro other hother
      rcases List.mem_cons.mp hother with rfl | hother
      · exact hstamp.trans htop
      · rcases List.mem_cons.mp hother with rfl | hother
        · exact hnext.trans htop
        · exact hmax other (List.mem_cons_of_mem _ hother)

theorem maxStamp_eq_none_iff (stamps : List String) : maxStamp stamps = none ↔ stamps = [] := by
  cases stamps <;> simp [maxStamp]

theorem maxStamp_some {stamps : List String} {top : String} (h : maxStamp stamps = some top) :
    top ∈ stamps ∧ ∀ stamp ∈ stamps, stamp ≤ top := by
  cases stamps with
  | nil => cases h
  | cons stamp rest =>
    obtain rfl := Option.some.inj h
    exact foldl_laterStamp stamp rest

namespace LedgerState

variable {s : LedgerState}

theorem ledgerMax_eq_none_iff : s.ledgerMax = none ↔ s.stamps = [] := by
  unfold ledgerMax stamps
  rw [List.append_eq_nil_iff, ← maxStamp_eq_none_iff, ← maxStamp_eq_none_iff s.auditLog]
  cases maxStamp s.sales <;> cases maxStamp s.auditLog <;> simp

theorem ledgerMax_some {top : String} (h : s.ledgerMax = some top) :
    top ∈ s.stamps ∧ ∀ stamp ∈ s.stamps, stamp ≤ top := by
  unfold ledgerMax at h
  simp only [stamps, List.mem_append]
  cases hsales : maxStamp s.sales with
  | none =>
    have hempty := (maxStamp_eq_none_iff s.sales).mp hsales
    cases haudit : maxStamp s.auditLog with
    | none => simp [hsales, haudit] at h
    | some b =>
      obtain rfl : b = top := by simpa [hsales, haudit] using h
      obtain ⟨hmem, hmax⟩ := maxStamp_some haudit
      exact ⟨.inr hmem, by simpa [hempty] using hmax⟩
  | some a =>
    obtain ⟨hamem, hamax⟩ := maxStamp_some hsales
    cases haudit : maxStamp s.auditLog with
    | none =>
      have hempty := (maxStamp_eq_none_iff s.auditLog).mp haudit
      obtain rfl : a = top := by simpa [hsales, haudit] using h
      exact ⟨.inl hamem, by simpa [hempty] using hamax⟩
    | some b =>
      obtain ⟨hbmem, hbmax⟩ := maxStamp_some haudit
      obtain rfl : laterStamp a b = top := by simpa [hsales, haudit] using h
      have ha : a ≤ laterStamp a b := by simp [laterStamp_eq_max]
      have hb : b ≤ laterStamp a b := by simp [laterStamp_eq_max]
      constructor
      · rw [laterStamp]
        split
        · exact .inl hamem
        · exact .inr hbmem
      · rintro stamp (hstamp | hstamp)
        · exact (hamax stamp hstamp).trans ha
        · exact (hbmax stamp hstamp).trans hb

def Readable (s : LedgerState) : Prop := ∀ stamp ∈ s.stamps, (r.rfc3339 stamp).isSome

theorem readable_step (s : LedgerState) (e : LedgerEvent) (h : s.Readable r) :
    ((ledgerMachine r).step s e).1.Readable r := by
  cases e with
  | sale stamp =>
    simp only [ledgerMachine]
    split
    · rename_i hnow
      intro other hother
      simp only [stamps, List.mem_append, List.mem_singleton] at hother
      rcases hother with (hold | rfl) | haudit
      · exact h other (List.mem_append_left _ hold)
      · simp [hnow]
      · exact h other (List.mem_append_right _ haudit)
    · exact h
  | audit stamp =>
    simp only [ledgerMachine]
    split
    · rename_i hnow
      intro other hother
      simp only [stamps, List.mem_append, List.mem_singleton] at hother
      rcases hother with hold | haudit | rfl
      · exact h other (List.mem_append_left _ hold)
      · exact h other (List.mem_append_right _ haudit)
      · simp [hnow]
    · exact h
  | setClock now => exact h
  | sweepAuditRetention cutoff =>
    intro other hother
    simp only [ledgerMachine, stamps, List.mem_append, List.mem_filter] at hother
    rcases hother with hold | haudit
    · exact h other (List.mem_append_left _ hold)
    · exact h other (List.mem_append_right _ haudit.1)

theorem readable_run {r : Readers} (h : s.Readable r)
    (events : List LedgerEvent) : ((ledgerMachine r).run s events).Readable r := by
  induction events generalizing s with
  | nil => exact h
  | cons e events ih => exact ih (readable_step r s e h)

theorem readable_empty (clock : Int) : (emptyLedger clock).Readable r := by
  simp [Readable, emptyLedger, stamps]

end LedgerState

namespace TenantSubscription

variable {r : Readers} {sub : TenantSubscription}

variable {deadline : Int}

theorem graceDeadline_eq_some_iff :
    sub.graceDeadline r = some deadline ↔ sub.tier ≠ .free ∧ ∃ expiresAt expiry,
      sub.expiresAt = some expiresAt ∧ r.rfc3339 expiresAt = some expiry ∧
        deadline = expiry + sub.graceSpan := by
  unfold graceDeadline
  by_cases hfree : sub.tier = .free
  · simp [hfree]
  · cases hexpires : sub.expiresAt with
    | none => simp [hfree]
    | some expiresAt => cases hread : r.rfc3339 expiresAt <;> simp [hfree, hread, eq_comm]

theorem datesHold_false_iff (h : sub.graceDeadline r = some deadline) (t : Int) :
    sub.datesHold r t = false ↔ sub.trialOver r t = true ∨ deadline < t := by
  obtain ⟨-, expiresAt, expiry, hexpires, hread, rfl⟩ := graceDeadline_eq_some_iff.mp h
  unfold datesHold
  simp only [hexpires, hread]
  cases sub.trialOver r t <;> simp

theorem readOnly_active_iff (hpaid : sub.tier ≠ .free) (hactive : sub.status = "active") (t : Int)
    (h : sub.graceDeadline r = some deadline) :
    sub.posReadOnlyAt r t = true ↔ sub.datesHold r t = false := by
  obtain ⟨-, expiresAt, expiry, hexpires, hread, rfl⟩ := graceDeadline_eq_some_iff.mp h
  have hspan : 0 ≤ sub.graceSpan := graceSpan_nonneg
  unfold posReadOnlyAt lifecycleStateAt datesHold
  simp only [hactive, hpaid, if_false, hexpires, hread]
  cases sub.trialOver r t with
  | true => simp
  | false =>
    by_cases hpaidup : t ≤ expiry
    · have hgrace : t ≤ expiry + sub.graceSpan := by omega
      simp [hpaidup, hgrace]
    · by_cases hgrace : t ≤ expiry + sub.graceSpan <;> simp [hpaidup, hgrace]

end TenantSubscription

open TenantSubscription

variable {r : Readers} {s : LedgerState}

theorem maxLedgerTime_cases (h : s.Readable r) :
    (s.stamps = [] ∧ s.maxLedgerTime r = some s.clock) ∨
      ∃ top t, top ∈ s.stamps ∧ (∀ stamp ∈ s.stamps, stamp ≤ top) ∧ r.rfc3339 top = some t ∧
        s.maxLedgerTime r = some t := by
  unfold LedgerState.maxLedgerTime
  cases hmax : s.ledgerMax with
  | none => exact .inl ⟨LedgerState.ledgerMax_eq_none_iff.mp hmax, rfl⟩
  | some top =>
    obtain ⟨hmem, htop⟩ := LedgerState.ledgerMax_some hmax
    obtain ⟨t, ht⟩ := Option.isSome_iff_exists.mp (h top hmem)
    exact .inr ⟨top, t, hmem, htop, ht, ht⟩

theorem lapsed_iff {sub : TenantSubscription} {t : Int} (href : s.maxLedgerTime r = some t)
    {deadline : Int} (hdeadline : sub.graceDeadline r = some deadline)
    (hcanceled : sub.status ≠ "canceled") (hrevoked : sub.status ≠ "revoked") :
    (sub.isWithinGracePeriodForConnection r s = false ∧
      (sub.status = "active" → sub.posReadOnlyForConnection r s = true)) ↔
        sub.trialOver r t = true ∨ deadline < t := by
  have hpaid := (graceDeadline_eq_some_iff.mp hdeadline).1
  simp only [isWithinGracePeriodForConnection, posReadOnlyForConnection, href]
  rw [within_eq_datesHold hpaid hcanceled hrevoked, ← datesHold_false_iff hdeadline]
  constructor
  · exact fun h => h.1
  · intro hdates
    exact ⟨hdates, fun hactive => (readOnly_active_iff hpaid hactive t hdeadline).mpr hdates⟩

theorem graceLapses_iff (h : s.Readable r)
    (sub : TenantSubscription) : GraceLapses r sub s ↔ LedgerTells r sub s := by
  by_cases hcanceled : sub.status = "canceled"
  · have hwithin : sub.isWithinGracePeriodForConnection r s = false := by
      unfold isWithinGracePeriodForConnection
      cases s.maxLedgerTime r with
      | none => rfl
      | some t => exact within_of_ended (.inl hcanceled)
    simp [GraceLapses, LedgerTells, hcanceled, hwithin]
  · by_cases hrevoked : sub.status = "revoked"
    · have hwithin : sub.isWithinGracePeriodForConnection r s = false := by
        unfold isWithinGracePeriodForConnection
        cases s.maxLedgerTime r with
        | none => rfl
        | some t => exact within_of_ended (.inr hrevoked)
      simp [GraceLapses, LedgerTells, hrevoked, hwithin]
    · rcases maxLedgerTime_cases h with ⟨hempty, href⟩ | ⟨top, t, hmem, htop, hread, href⟩
      · -- without a ledger the wall clock is all there is
        have hlapses : GraceLapses r sub s := by
          intro deadline hdeadline hpast
          rcases hpast with hclock | ⟨stamp, hstamp, -⟩
          · exact (lapsed_iff href hdeadline hcanceled hrevoked).mpr (.inr hclock)
          · simp [hempty] at hstamp
        simp [LedgerTells, hempty, hlapses]
      · have hnonempty : s.stamps ≠ [] := List.ne_nil_of_mem hmem
        simp only [LedgerTells, hcanceled, hrevoked, hnonempty, false_or]
        constructor
        · intro hlapses deadline hdeadline hpast
          have hover := (lapsed_iff href hdeadline hcanceled hrevoked).mp
            (hlapses deadline hdeadline hpast)
          exact ⟨top, hmem, htop, t, hread, hover⟩
        · intro htells deadline hdeadline hpast
          obtain ⟨other, hother, hmax, t', ht', hover⟩ := htells deadline hdeadline hpast
          obtain rfl : other = top := le_antisymm (htop other hother) (hmax top hmem)
          obtain rfl : t = t' := Option.some.inj (hread.symm.trans ht')
          exact (lapsed_iff href hdeadline hcanceled hrevoked).mpr hover

/-- Grace is not extended in a run just when the ledger tells in every state of it. -/
theorem grace_not_extended_iff (r : Readers) (sub : TenantSubscription) (clock : Int)
    (events : List LedgerEvent) :
    GraceNotExtended r sub clock events ↔ ∀ l rest, events = l ++ rest →
      LedgerTells r sub ((ledgerMachine r).run (emptyLedger clock) l) := by
  have hreadable := fun l => LedgerState.readable_run (LedgerState.readable_empty r clock) l
  constructor
  · intro h l rest hsplit
    exact (graceLapses_iff (hreadable l) sub).mp (h.lapses l rest hsplit)
  · intro h
    have hlapses : ∀ l rest, events = l ++ rest →
        GraceLapses r sub ((ledgerMachine r).run (emptyLedger clock) l) :=
      fun l rest hsplit => (graceLapses_iff (hreadable l) sub).mpr (h l rest hsplit)
    refine ⟨hlapses, ?_⟩
    intro l m rest hsplit hactive deadline hdeadline stamp t ht hlate _ _ hstill
    exact (hlapses (l ++ m) rest hsplit deadline hdeadline
      (.inr ⟨stamp, hstill, t, ht, hlate⟩)).2 hactive

def idlePlus : TenantSubscription :=
  ⟨"default", .plus, "active", some "2026-01-01T00:00:00Z", "[]", "c2ln", ""⟩

def idleReaders : Readers where
  rfc3339 text :=
    if text = "2026-01-01T00:00:00Z" then some 1767225600000000000
    else if text = "2026-01-02T00:00:00Z" then some 1767312000000000000
    else none
  json _ := none

def idleRun : List LedgerEvent := [.sale "2026-01-02T00:00:00Z", .setClock 1782864000000000000]

theorem idleRun_extends_grace :
    ¬GraceNotExtended idleReaders idlePlus 1767312000000000000 idleRun := by
  intro h
  have hpast := h.lapses idleRun [] (by simp) 1768435200000000000 (by decide) (.inl (by decide))
  exact absurd hpast.1 (by decide)

end OzPos
