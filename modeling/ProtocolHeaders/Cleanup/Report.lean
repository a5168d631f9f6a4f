/-!
# What a cleanup changed

A report counts the changes of a cleanup by kind. Reports of several cleanups add up.
-/

namespace ProtocolHeaders.Cleanup

/-- The number of changes of each kind. -/
structure Report where
  /-- Enumerations dropped because an earlier one has their name. -/
  deduplicatedEnumerations : Nat := 0
  renamedEnumerations : Nat := 0
  removedInterfaces : Nat := 0
  /-- Aliases removed by the rules or because a richer entity has their name. -/
  removedAliases : Nat := 0
  /-- Removed interfaces that were dropped from the bases of others. -/
  droppedBases : Nat := 0
  /-- Names removed from the dependency sets of aliases and interfaces. -/
  prunedDependencies : Nat := 0
deriving Repr, DecidableEq, Inhabited

namespace Report

/-- Two reports added up kind by kind. -/
def add (left right : Report) : Report :=
  { deduplicatedEnumerations := left.deduplicatedEnumerations + right.deduplicatedEnumerations
    renamedEnumerations := left.renamedEnumerations + right.renamedEnumerations
    removedInterfaces := left.removedInterfaces + right.removedInterfaces
    removedAliases := left.removedAliases + right.removedAliases
    droppedBases := left.droppedBases + right.droppedBases
    prunedDependencies := left.prunedDependencies + right.prunedDependencies }

/-- The counts with the names under which they are shown. -/
def entries (report : Report) : List (String × Nat) :=
  [("deduplicated_enums", report.deduplicatedEnumerations),
    ("renamed_enums", report.renamedEnumerations),
    ("removed_interfaces", report.removedInterfaces),
    ("removed_type_aliases", report.removedAliases),
    ("dropped_bases", report.droppedBases),
    ("pruned_dependencies", report.prunedDependencies)]

/-- One line about all changes. -/
def summary (report : Report) : String :=
  "Cleanup: " ++ toString report.deduplicatedEnumerations ++ " duplicate enums, " ++
    toString report.renamedEnumerations ++ " renamed, " ++
    toString report.removedInterfaces ++ " interfaces and " ++
    toString report.removedAliases ++ " aliases removed, " ++
    toString report.droppedBases ++ " bases dropped, " ++
    toString report.prunedDependencies ++ " dependencies pruned"

end Report

end ProtocolHeaders.Cleanup
