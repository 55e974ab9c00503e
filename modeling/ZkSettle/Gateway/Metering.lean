import ZkSettle.Library.Quota

/-!
# Metering

The rows that the gateway keeps of one API key: a row of `usage_records`, which counts the
requests of the current period, and a row of `daily_usage` for each day. Every function is
one statement, or two, and each statement is atomic.
-/
namespace ZkSettle.Gateway

inductive Tier where
  | developer
  | startup
  | growth
  | enterprise
  deriving DecidableEq, Repr

def Tier.monthlyLimit : Tier → Nat
  | .developer => 1000
  | .startup => 10000
  | .growth => 100000
  | .enterprise => 1000000

theorem Tier.monthlyLimit_pos (tier : Tier) : 0 < tier.monthlyLimit := by
  cases tier <;> decide

def PERIOD_SECS : Nat := 30 * 24 * 60 * 60

def DAY_SECS : Nat := 24 * 60 * 60

def MAX_DAILY_BUCKETS : Nat := 400

structure UsageRecord where
  requestCount : Nat
  periodStart : Nat
  lastRequest : Nat
  deriving DecidableEq, Repr

/-- The row after the upsert, and whether a row was affected. -/
def tryReserve (usage : Option UsageRecord) (now limit : Nat) : Option UsageRecord × Bool :=
  match usage with
  | none => (some ⟨1, now, now⟩, true)
  | some row =>
    -- `now - period_start >= PERIOD_SECS`, of signed numbers
    if row.periodStart + PERIOD_SECS ≤ now then (some ⟨1, now, now⟩, true)
    else if row.requestCount < limit then
      (some ⟨row.requestCount + 1, row.periodStart, now⟩, true)
    else (some row, false)

/-- `GREATEST(request_count - 1, 0)` -/
def release (usage : Option UsageRecord) : Option UsageRecord :=
  usage.map fun row => { row with requestCount := row.requestCount - 1 }

/-- The counts of the days that have a row. -/
abbrev DailyUsage := Nat → Option Nat

def dayStart (unixSecs : Nat) : Nat := unixSecs / DAY_SECS * DAY_SECS

def pruneOldBuckets (daily : DailyUsage) (now : Nat) : DailyUsage :=
  let cutoff := now - (MAX_DAILY_BUCKETS - 1) * DAY_SECS
  fun day => if day < cutoff then none else daily day

/-- The statement of `record_daily` that fails. -/
inductive RecordFault where
  | insert
  | prune
  deriving DecidableEq, Repr

/-- The rows afterwards: without the day, or with the old days still there, when it fails. -/
def recordDaily (daily : DailyUsage) (now : Nat) (fault : Option RecordFault) : DailyUsage :=
  let day := dayStart now
  let inserted := fun d => if d = day then some ((daily d).getD 0 + 1) else daily d
  match fault with
  | some .insert => daily
  | some .prune => inserted
  | none => pruneOldBuckets inserted now

/-! ## The counter of the period -/

def UsageRecord.counter (row : UsageRecord) : Quota.Counter Nat where
  window := row.periodStart
  count := row.requestCount

/-- What a reservation does to the row. -/
inductive Reserved (limit : Nat) (usage : Option UsageRecord) (now : Nat) : UsageRecord → Prop
  | first (absent : usage = none) : Reserved limit usage now ⟨1, now, now⟩
  | rolled {row : UsageRecord} (present : usage = some row)
      (expired : row.periodStart + PERIOD_SECS ≤ now) : Reserved limit usage now ⟨1, now, now⟩
  | counted {row : UsageRecord} (present : usage = some row) (free : row.requestCount < limit) :
      Reserved limit usage now ⟨row.requestCount + 1, row.periodStart, now⟩

theorem tryReserve_reserved {usage usage' : Option UsageRecord} {now limit : Nat}
    (reserved : tryReserve usage now limit = (usage', true)) :
    ∃ row, usage' = some row ∧ Reserved limit usage now row := by
  cases usage with
  | none =>
    cases reserved
    exact ⟨_, rfl, .first rfl⟩
  | some row =>
    rw [tryReserve] at reserved
    split at reserved
    next expired =>
      cases reserved
      exact ⟨_, rfl, .rolled rfl expired⟩
    next within =>
      split at reserved
      next free =>
        cases reserved
        exact ⟨_, rfl, .counted rfl free⟩
      next full => cases reserved

theorem tryReserve_refused {usage usage' : Option UsageRecord} {now limit : Nat}
    (refused : tryReserve usage now limit = (usage', false)) : usage' = usage := by
  cases usage with
  | none => cases refused
  | some row =>
    rw [tryReserve] at refused
    split at refused
    next expired => cases refused
    next within =>
      split at refused
      next free => cases refused
      next full =>
        cases refused
        rfl

end ZkSettle.Gateway
