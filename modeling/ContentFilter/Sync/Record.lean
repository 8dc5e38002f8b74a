import ContentFilter.Rule.Record
import ContentFilter.Sync

/-!
# Synchronization as records

How calls to a backend and reports are written as JSON, and calls are read back.
-/

namespace ContentFilter

namespace SyncBatch

/-- The record of a call. -/
def toJson (batch : SyncBatch) : Json :=
  .record [
    ("addRules", .list (batch.additions.map CompiledRule.toJson)),
    ("removeRuleIds", .list (batch.removals.map Json.nat))]

/-- The fields of the record of a call. -/
def fields : FieldsDecoder SyncBatch :=
  SyncBatch.mk <$> .required "addRules" (.list CompiledRule.decoder)
    <*> .required "removeRuleIds" (.list .natural32)

/-- A call is read from its record. -/
def decoder : Decoder SyncBatch := fields.toDecoder

end SyncBatch

/-- The record of a report. -/
def SyncReport.toJson (report : SyncReport) : Json :=
  .record [
    ("removed", .nat report.removed),
    ("added", .nat report.added),
    ("unchanged", .nat report.unchanged),
    ("batches", .nat report.batches)]

end ContentFilter
