/-
# `Services.AcquisitionBounds` — the interval of a bounded request

`services/wallet_acquisition_bounds.py`: a rolling window ends at the
time of the request, a custom one is read from its two texts, and either
way the interval is nonempty.
-/
import TonTracker.IsoText

namespace TonTracker

inductive TimeWindow where
  | day
  | threeDays
  | week
  | custom
deriving DecidableEq, Repr

/-- `_ROLLING_WINDOWS`, in microseconds. -/
def rollingWindow : TimeWindow → Option Nat
  | .day => some (24 * 3600 * microsPerSecond)
  | .threeDays => some (3 * 86400 * microsPerSecond)
  | .week => some (7 * 86400 * microsPerSecond)
  | .custom => none

/-- Why a request was not planned. -/
inductive PlanningError where
  | valueError (message : String)
  | overflowError
  | incrementalUnavailable (message : String)
  | checkpointCorrupt (message : String)
  | resumeUnavailable (message : String)
deriving DecidableEq, Repr

/-- `WalletAcquisitionBounds`. -/
structure AcquisitionBounds where
  start : Instant
  stop : Instant
  ordered : start < stop

/-- `_parse_iso`. -/
def parseIso (value : Option Text) (fieldName : String) : Except PlanningError Instant :=
  match value with
  | none => .error (.valueError (fieldName ++ " must be a nonblank ISO datetime."))
  | some text =>
      if text.isEmpty || !isStripped text then
        .error (.valueError (fieldName ++ " must be a nonblank ISO datetime."))
      else
        match parseCanonicalTimestamp text with
        | .ok t => .ok t
        | .error .valueError =>
            .error (.valueError (fieldName ++ " must be a valid ISO datetime."))
        | .error .overflowError => .error .overflowError

/-- The last check of `resolve_wallet_acquisition_bounds`. -/
def checkedBounds (start stop : Instant) : Except PlanningError AcquisitionBounds :=
  if h : start < stop then .ok ⟨start, stop, h⟩
  else .error (.valueError "Wallet acquisition start must be before end.")

/-- `resolve_wallet_acquisition_bounds`. -/
def resolveWalletAcquisitionBounds (timeWindow : TimeWindow) (customStart customEnd : Option Text)
    (now : Instant) : Except PlanningError AcquisitionBounds :=
  match rollingWindow timeWindow with
  | some window =>
      if customStart.isSome || customEnd.isSome then
        .error (.valueError "custom_start and custom_end are allowed only for custom windows.")
      else
        match now.minus window with
        | some start => checkedBounds start now
        | none => .error .overflowError
  | none => do
      let start ← parseIso customStart "custom_start"
      let stop ← parseIso customEnd "custom_end"
      if now < stop then
        .error (.valueError "custom_end cannot be later than acquisition time.")
      else checkedBounds start stop

/-- The bounds were made by the last check. -/
theorem checkedBounds_ok {start stop : Instant} {bounds : AcquisitionBounds}
    (h : checkedBounds start stop = .ok bounds) : bounds.start = start ∧ bounds.stop = stop := by
  unfold checkedBounds at h
  split at h
  · cases h
    exact ⟨rfl, rfl⟩
  · cases h

end TonTracker
