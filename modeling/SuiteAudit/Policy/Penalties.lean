import SuiteAudit.Issue

/-!
# Penalties

Issues without a category cost points, by severity, and at most a cap for each severity.
-/

namespace SuiteAudit

/-- **The price of an issue and the cap**, for each severity. -/
structure PenaltyPolicy where
  perError : Int := 5
  perWarning : Int := 2
  perInfo : Int := 1
  capError : Int := 35
  capWarning : Int := 40
  capInfo : Int := 15
deriving Repr, DecidableEq, Inhabited

/-- **One number for each severity.** -/
structure BySeverity (α : Type) where
  errors : α
  warnings : α
  infos : α
deriving Repr, DecidableEq, Inhabited

/-- How many issues have this severity and no category. -/
def penaltyCount (severity : Severity) (issues : List Issue) : Nat :=
  issues.countP fun i => i.isPenaltyOnly && i.severity == severity

/-- **How many issues cost points**, by severity. -/
def penaltyCounts (issues : List Issue) : BySeverity Nat where
  errors := penaltyCount .error issues
  warnings := penaltyCount .warning issues
  infos := penaltyCount .info issues

namespace PenaltyPolicy

/-- **The points that issues cost**, by severity: price times count, up to the cap. -/
def points (p : PenaltyPolicy) (counts : BySeverity Int) : BySeverity Int where
  errors := min (counts.errors * p.perError) p.capError
  warnings := min (counts.warnings * p.perWarning) p.capWarning
  infos := min (counts.infos * p.perInfo) p.capInfo

/-- The points that a list of issues costs, by severity. -/
def pointsOf (p : PenaltyPolicy) (issues : List Issue) : BySeverity Int :=
  let counts := penaltyCounts issues
  p.points ⟨counts.errors, counts.warnings, counts.infos⟩

end PenaltyPolicy

/-- The sum over the severities. -/
def BySeverity.total (n : BySeverity Int) : Int :=
  n.errors + n.warnings + n.infos

end SuiteAudit
