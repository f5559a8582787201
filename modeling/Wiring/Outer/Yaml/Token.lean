/-!
# Outer — Yaml — Token

The marks and texts that a YAML document consists of. What indentation or a later colon says is a
token of its own.
-/

namespace Wiring.Yaml

inductive Token where
  /-- A line that names a version. -/
  | version
  /-- A line that says what a handle of tags stands for. -/
  | handle (handle text : String)
  /-- A line with any other directive. -/
  | directive
  | documentStart
  | documentEnd
  | blockList
  | blockRecord
  | blockEnd
  | flowList
  | flowListEnd
  | flowRecord
  | flowRecordEnd
  /-- The dash before an item. -/
  | entry
  | comma
  | key
  | value
  | alias (name : String)
  | anchor (name : String)
  | tag (handle suffix : String)
  /-- A text without quotes, which may spell something else. -/
  | plain (text : String)
  | quoted (text : String)
  deriving DecidableEq

end Wiring.Yaml
