import FunctionHost.Logging.Filter
/-!
# The process-wide subscriber

A process has at most one process-wide log subscriber, installed once with the filter its
environment and configured level give. Installing a second one fails and leaves the first. The
filter is built before the slot is looked at, so a filter whose reading stops at a cut inside a
character stops every installation.

Results:
* `install_twice`: a second installation fails.
-/
namespace FunctionHost.Logging

/-- The process-wide subscriber slot: the filter of the subscriber installed, if any. -/
structure GlobalLog where
  filter : Option Filter
  deriving DecidableEq, Repr

namespace GlobalLog

def empty : GlobalLog := ⟨none⟩

def alreadySet : String := "a global default trace dispatcher has already been set"

/-- Why an installation fails. -/
inductive InstallError where
  /-- A subscriber is installed already. -/
  | alreadySet
  /-- Building the filter stopped at a cut inside a character. -/
  | split (p : SplitChar)
  deriving DecidableEq, Repr

/-- Installs the subscriber for an environment specification and a configured level. The filter
is built first, so a reading that stops fails the installation even when a subscriber is
installed already. -/
def install (g : GlobalLog) (spec : Option String) (level : String) :
    Except InstallError GlobalLog :=
  let reading := choose spec level
  match reading.stopped, g.filter with
  | some p, _ => .error (.split p)
  | none, some _ => .error .alreadySet
  | none, none => .ok ⟨some reading.kept⟩

end GlobalLog

theorem install_twice (spec spec2 : Option String) (level level2 : String) (g : GlobalLog)
    (h : GlobalLog.empty.install spec level = .ok g) :
    (g.install spec2 level2).toOption = none := by
  simp only [GlobalLog.empty, GlobalLog.install] at h
  split at h <;> simp at h
  subst h
  simp only [GlobalLog.install]
  split <;> first | rfl | simp_all

end FunctionHost.Logging
