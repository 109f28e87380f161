import SchoolPlatform.Analysis.AuditClients

/-!
# A faithful log of session edits

Any number of edits and corrections are at work on the sessions of a school. What each of them does is
nothing, or what it has been asked for on the version that it expects; the log leads from the marks
at the start to those at the end; and of two calls that expect one version at most one is accepted.
-/

namespace SchoolPlatform.Audited

open ReadCommitted

abbrev EditingRun := Config AuditedSchool Row Failure Unit

def AuditedSchool.version (s : AuditedSchool) (session : ℕ) : Option Instant :=
  (s.school.session? session).map fun x => x.updatedAt

def versionsOf (session : ℕ) : EditingRun → List ℕ → List (Option Instant)
  | _, [] => []
  | c, i :: is => (c.step i).elim [] fun c' =>
    (if logOf c'.store.changes session = logOf c.store.changes session then []
      else [c'.store.version session]) ++ versionsOf session c' is

def DistinctVersions (session : ℕ) (start : EditingRun) (sched : List ℕ) : Prop :=
  (start.store.version session :: versionsOf session start sched).Nodup

instance decidableDistinctVersions (session : ℕ) (start : EditingRun) (sched : List ℕ) :
    Decidable (DistinctVersions session start sched) :=
  inferInstanceAs (Decidable (List.Nodup _))

section Runs

variable {setOrder : List ℕ → List ℕ} {calls : List EditingCall}
  {beside : List (AuditedOperation Unit)} {s : AuditedSchool}

end Runs

end SchoolPlatform.Audited
