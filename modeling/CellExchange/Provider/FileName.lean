import CellExchange.Failure
import CellExchange.Window

/-! # Names of the provider's files

The provider publishes one file with every cell, and one for each clock hour with what changed in
it, named after that hour. The latest of these is the one of the hour before now. -/

namespace CellExchange.Provider

/-- The name of the file with every cell. -/
def fullFileName : String := "cell_towers.csv.gz"

/-- The name of the file to fetch at an instant. -/
def fileName (full : Bool) (now : Instant) : Except Cause String :=
  if full then .ok fullFileName
  else
    let previous := now.plus (-Instant.perHour)
    if previous.InCalendar then
      .ok ("cell_towers_diff-" ++ previous.stamp "" "" ++ ".csv.gz")
    else .error .noPreviousHour

end CellExchange.Provider
