/-!
# LogSettings

What a log shows, by preset.
-/

namespace Wiring

inductive LogLevel where
  | debug | info
  deriving DecidableEq

def LogLevel.name : LogLevel → String
  | debug => "DEBUG"
  | info => "INFO"

structure LogSettings where
  level : LogLevel
  showsTarget : Bool
  showsThreadIds : Bool
  showsFile : Bool
  showsLine : Bool
  isJson : Bool
  deriving DecidableEq

namespace LogSettings

def standard : LogSettings := ⟨.info, true, false, false, false, false⟩

def development : LogSettings := ⟨.debug, true, true, true, true, false⟩

def production : LogSettings := ⟨.info, false, false, false, false, true⟩

end LogSettings

end Wiring
