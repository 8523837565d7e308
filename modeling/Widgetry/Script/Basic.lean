import Widgetry.Script.Parts
import Widgetry.Script.Record

/-! Scripts and their texts. -/

namespace Widgetry

/-- A script: the classes it imports in order of first use, and its records. -/
structure Script where
  imports : List String
  records : List Script.Record
  runtimePackage : String
  deriving DecidableEq

/-- The texts of a script. -/
def Script.parts (s : Script) : Script.Parts where
  imports := s.imports
  dataFields := s.records.filterMap Script.Record.dataField?
  initStatements := s.records.map Script.Record.code
  runtimePackage := s.runtimePackage

end Widgetry
