import RpiDashboard.Qt.Text

/-! The health of a workflow run (`projects/project_health.cpp`). -/

namespace RpiDashboard.Projects

open Qt

inductive Health
  | failed | attention | running | stale | unknown | healthy
  deriving DecidableEq

def healthForRun (status conclusion : QString) (completedAt now : QDateTime) : Health :=
  if status = "" then .unknown
  else if status ≠ "completed" then .running
  else if conclusion = "success" then
    if completedAt.isValid && 7 ≤ completedAt.daysTo now then .stale else .healthy
  else if conclusion ∈ ["failure", "timed_out", "startup_failure", "action_required"] then .failed
  else if conclusion ∈ ["neutral", "cancelled", "skipped"] then .attention
  else if conclusion = "stale" then .stale
  else .unknown

def healthKey : Health → QString
  | .failed => "failed"
  | .attention => "attention"
  | .running => "running"
  | .stale => "stale"
  | .healthy => "healthy"
  | .unknown => "unknown"

end RpiDashboard.Projects
