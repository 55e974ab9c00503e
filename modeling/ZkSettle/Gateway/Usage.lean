import ZkSettle.Gateway.Metering
import ZkSettle.Library.Numerals

/-!
# Days of usage

The days that the gateway reports of a key, and how long their rows are kept. A row is
keyed by its midnight and pruned by a time of day, so that the oldest day of the window is
lost unless the latest call comes at midnight.
-/
namespace ZkSettle.Gateway

open Numerals

/-! ## daily_history -/

/-- `as i32` -/
def asI32 (n : Int) : Int := n.bmod 4294967296

/-- The year, the month and the day. -/
def civilFromDays (z : Int) : Int × Nat × Nat :=
  let z := z + 719468
  let era := (if 0 ≤ z then z else z - 146096).tdiv 146097
  let doe := (z - era * 146097).toNat
  let yoe := (doe - doe / 1460 + doe / 36524 - doe / 146096) / 365
  let y := yoe + era * 400
  let doy := doe - (365 * yoe + yoe / 4 - yoe / 100)
  let mp := (5 * doy + 2) / 153
  let d := doy - (153 * mp + 2) / 5 + 1
  let m := if mp < 10 then mp + 3 else mp - 9
  let y := if m ≤ 2 then y + 1 else y
  (asI32 y, m, d)

/-- `{n:0width$}`, where a sign is part of the width. -/
def formatPadded (width : Nat) (n : Int) : List Char :=
  if n < 0 then '-' :: decimalField (width - 1) n.natAbs else decimalField width n.natAbs

def formatDay (dayStartUnix : Nat) : String :=
  let daysSinceEpoch := dayStartUnix / DAY_SECS
  let (y, m, d) := civilFromDays daysSinceEpoch
  .ofList (formatPadded 4 y ++ '-' :: decimalField 2 m ++ '-' :: decimalField 2 d)

example : formatDay 1777075200 = "2026-04-25" := by decide

/-- What is reported of a day. -/
structure DayReport where
  date : String
  count : Nat
  deriving DecidableEq, Repr

def dailyHistory (daily : DailyUsage) (now days : Nat) : List DayReport :=
  if days = 0 then []
  else
    let today := dayStart now
    let cutoff := today - (days - 1) * DAY_SECS
    let counts := fun day => if cutoff ≤ day then daily day else none
    (List.range days).reverse.map fun offset =>
      let day := today - offset * DAY_SECS
      { date := formatDay day, count := (counts day).getD 0 }

/-- Every history that goes back to a day reports it. -/
def Reported (daily : DailyUsage) (now day count : Nat) : Prop :=
  ∀ days, dayStart now < day + days * DAY_SECS →
    { date := formatDay day, count } ∈ dailyHistory daily now days

theorem dayStart_le (now : Nat) : dayStart now ≤ now := Nat.div_mul_le_self now DAY_SECS

/-- Days before a day that is not later are full days. -/
theorem exists_offset {day today : Nat} (earlier : dayStart day ≤ dayStart today) :
    ∃ offset, dayStart day = dayStart today - offset * DAY_SECS ∧
      dayStart day + offset * DAY_SECS = dayStart today := by
  refine ⟨today / DAY_SECS - day / DAY_SECS, ?_⟩
  rw [dayStart, dayStart] at earlier ⊢
  rw [DAY_SECS] at earlier ⊢
  omega

theorem reported_of_stored {daily : DailyUsage} {now time count : Nat}
    (stored : daily (dayStart time) = some count) (earlier : dayStart time ≤ dayStart now) :
    Reported daily now (dayStart time) count := by
  intro days within
  obtain ⟨offset, back, forth⟩ := exists_offset earlier
  have inside : offset < days := by
    rw [← forth, DAY_SECS] at within
    omega
  have kept : dayStart now - (days - 1) * DAY_SECS ≤ dayStart time := by
    rw [← forth, DAY_SECS]
    omega
  rw [dailyHistory, if_neg (by omega)]
  refine List.mem_map.mpr ⟨offset, List.mem_reverse.mpr (List.mem_range.mpr inside), ?_⟩
  simp only [← back, if_pos kept, stored, Option.getD_some]

/-! ## Histories of calls -/

/-- A call of `record_daily`, with the statement of it that fails. -/
structure RecordCall where
  now : Nat
  fault : Option RecordFault
  deriving DecidableEq, Repr

/-- The rows of a key after a history of calls. -/
def recorded (history : List RecordCall) : DailyUsage :=
  history.foldl (fun daily call => recordDaily daily call.now call.fault) fun _ => none

/-- A call has put the day into the table. -/
def Recorded (history : List RecordCall) (day : Nat) : Prop :=
  ∃ call ∈ history, call.fault ≠ some .insert ∧ dayStart call.now = day

/-- The time from which days are kept. -/
def cutoff (now : Nat) : Nat := now - (MAX_DAILY_BUCKETS - 1) * DAY_SECS

theorem recordDaily_eq (daily : DailyUsage) (now : Nat) (fault : Option RecordFault) (day : Nat) :
    recordDaily daily now fault day =
      if fault = none ∧ day < cutoff now then none
      else if fault ≠ some .insert ∧ day = dayStart now then some ((daily day).getD 0 + 1)
      else daily day := by
  cases fault with
  | none => simp [recordDaily, pruneOldBuckets, cutoff]
  | some fault =>
    cases fault with
    | insert => simp [recordDaily]
    | prune => simp [recordDaily]

theorem recorded_append (history : List RecordCall) (call : RecordCall) :
    recorded (history ++ [call]) = recordDaily (recorded history) call.now call.fault :=
  List.foldl_append

/-- What is stored has been recorded. -/
theorem Recorded.of_stored {history : List RecordCall} {day count : Nat}
    (stored : recorded history day = some count) : Recorded history day := by
  induction history using List.reverseRecOn generalizing count with
  | nil => cases stored
  | append_singleton history call ih =>
    rw [recorded_append, recordDaily_eq] at stored
    split at stored
    · cases stored
    · split at stored
      next here => exact ⟨call, by simp, here.1, here.2.symm⟩
      next =>
        obtain ⟨earlier, member, inserted, same⟩ := ih stored
        exact ⟨earlier, List.mem_append_left _ member, inserted, same⟩

/-- What has been recorded is stored until a call comes whose cutoff is later. -/
theorem Recorded.stored {history : List RecordCall} {day now : Nat}
    (known : Recorded history day) (latest : ∀ call ∈ history, call.now ≤ now)
    (late : cutoff now ≤ day) : ∃ count, recorded history day = some count ∧ 0 < count := by
  induction history using List.reverseRecOn with
  | nil =>
    obtain ⟨_, member, -⟩ := known
    cases member
  | append_singleton history call ih =>
    have time := latest call (by simp)
    have kept : ¬ day < cutoff call.now := by
      rw [cutoff] at late ⊢
      omega
    rw [recorded_append, recordDaily_eq, if_neg fun pruned => kept pruned.2]
    split
    · exact ⟨_, rfl, Nat.succ_pos _⟩
    next elsewhere =>
      apply ih
      · obtain ⟨other, member, inserted, same⟩ := known
        rcases List.mem_append.mp member with earlier | here
        · exact ⟨other, earlier, inserted, same⟩
        · cases List.mem_singleton.mp here
          exact absurd ⟨inserted, same.symm⟩ elsewhere
      · exact fun other member => latest other (List.mem_append_left _ member)

/-! ## The window -/

/-- The days up to the day of the latest call, `MAX_DAILY_BUCKETS` of them. -/
def InWindow (now day : Nat) : Prop := dayStart now < day + MAX_DAILY_BUCKETS * DAY_SECS

/-- The days of the window that have been recorded are stored and reported, and no other
day is stored. -/
structure KeepsWindow (history : List RecordCall) (now : Nat) : Prop where
  kept : ∀ day, Recorded history day → InWindow now day →
    ∃ count, recorded history day = some count ∧ 0 < count ∧
      Reported (recorded history) now day count
  pruned : ∀ day count, recorded history day = some count → InWindow now day

/-- The latest call comes at midnight, or nothing was recorded on the first day of the
window. -/
def SparesFirstDay (earlier : List RecordCall) (now : Nat) : Prop :=
  now % DAY_SECS = 0 ∨
    ∀ day, Recorded earlier day → day + (MAX_DAILY_BUCKETS - 1) * DAY_SECS ≠ dayStart now

/-- A day of the window that is not the first of it is later than the cutoff. -/
theorem cutoff_le {time now : Nat} (within : InWindow now (dayStart time))
    (later : now % DAY_SECS = 0 ∨
      dayStart time + (MAX_DAILY_BUCKETS - 1) * DAY_SECS ≠ dayStart now) :
    cutoff now ≤ dayStart time := by
  rw [InWindow, dayStart, dayStart] at within
  rw [dayStart, dayStart] at later
  rw [cutoff, dayStart]
  simp only [MAX_DAILY_BUCKETS, DAY_SECS] at *
  omega

/-- A call in the daytime loses the first day of the window, whose midnight is before the
cutoff. -/
theorem lost_of_first {now day : Nat} (earlier : List RecordCall) (daytime : now % DAY_SECS ≠ 0)
    (first : day + (MAX_DAILY_BUCKETS - 1) * DAY_SECS = dayStart now) :
    recorded (earlier ++ [⟨now, none⟩]) day = none := by
  have before : day < cutoff now := by
    have start : dayStart now < now := by
      rw [dayStart]
      rw [DAY_SECS] at daytime ⊢
      omega
    rw [cutoff]
    omega
  rw [recorded_append, recordDaily_eq, if_pos ⟨rfl, before⟩]

/-- A call that has gone well leaves no day before the window. -/
theorem inWindow_of_stored {earlier : List RecordCall} {now day count : Nat}
    (stored : recorded (earlier ++ [⟨now, none⟩]) day = some count) : InWindow now day := by
  rw [recorded_append, recordDaily_eq] at stored
  split at stored
  next => cases stored
  next late =>
    have start := dayStart_le now
    have kept : cutoff now ≤ day := not_lt.mp fun before => late ⟨rfl, before⟩
    rw [cutoff] at kept
    rw [InWindow]
    simp only [MAX_DAILY_BUCKETS, DAY_SECS] at *
    omega

/-- After a call that has gone well the window is kept if and only if its first day is
spared. -/
theorem keepsWindow_iff {earlier : List RecordCall} {now : Nat}
    (latest : ∀ call ∈ earlier, call.now ≤ now) :
    KeepsWindow (earlier ++ [⟨now, none⟩]) now ↔ SparesFirstDay earlier now := by
  constructor
  · intro keeps
    by_contra lost
    rw [SparesFirstDay, not_or] at lost
    obtain ⟨daytime, lost⟩ := lost
    push Not at lost
    obtain ⟨day, ⟨call, member, inserted, same⟩, first⟩ := lost
    have within : InWindow now day := by
      rw [InWindow, ← first, MAX_DAILY_BUCKETS, DAY_SECS]
      omega
    obtain ⟨count, stored, -⟩ :=
      keeps.kept day ⟨call, List.mem_append_left _ member, inserted, same⟩ within
    rw [lost_of_first earlier daytime first] at stored
    cases stored
  · intro spares
    have bounded : ∀ call ∈ earlier ++ [(⟨now, none⟩ : RecordCall)], call.now ≤ now := by
      intro call member
      rcases List.mem_append.mp member with before | here
      · exact latest call before
      · rw [List.mem_singleton.mp here]
    constructor
    case kept =>
      rintro day ⟨call, member, inserted, rfl⟩ within
      have late : cutoff now ≤ dayStart call.now := by
        apply cutoff_le within
        refine spares.imp_right fun clear => ?_
        rcases List.mem_append.mp member with before | here
        · exact clear _ ⟨call, before, inserted, rfl⟩
        · rw [List.mem_singleton.mp here, MAX_DAILY_BUCKETS, DAY_SECS]
          exact Nat.ne_of_gt (Nat.lt_add_of_pos_right (by decide))
      obtain ⟨count, stored, positive⟩ :=
        Recorded.stored ⟨call, member, inserted, rfl⟩ bounded late
      have before : dayStart call.now ≤ dayStart now :=
        Nat.mul_le_mul_right _ (Nat.div_le_div_right (bounded call member))
      exact ⟨count, stored, positive, reported_of_stored stored before⟩
    case pruned => exact fun day count => inWindow_of_stored

/-- Two calls, on the first and at the midnight of the last day of the window. -/
theorem keepsWindow_two :
    KeepsWindow [⟨0, none⟩, ⟨399 * 86400, none⟩] (399 * 86400) ↔
      SparesFirstDay [⟨0, none⟩] (399 * 86400) :=
  @keepsWindow_iff [⟨0, none⟩] _ (by simp)

theorem not_keepsWindow :
    recorded [⟨0, none⟩, ⟨399 * 86400 + 1, none⟩] 0 = none ∧
      ¬ ∀ (earlier : List RecordCall) (now : Nat), (∀ call ∈ earlier, call.now ≤ now) →
        KeepsWindow (earlier ++ [⟨now, none⟩]) now := by
  have lost : recorded [⟨0, none⟩, ⟨399 * 86400 + 1, none⟩] 0 = none := rfl
  refine ⟨lost, fun always => ?_⟩
  obtain ⟨count, stored, -⟩ := (always [⟨0, none⟩] (399 * 86400 + 1) (by simp)).kept 0
    ⟨⟨0, none⟩, by simp, by decide, rfl⟩ (Nat.lt_of_sub_pos (by decide))
  rw [List.singleton_append, lost] at stored
  cases stored

end ZkSettle.Gateway
