import IRDiagnostics.Config.Decode

/-!
This module contains the loading of configurations. A text that is loaded describes a configuration,
and one that makes sense.
-/

namespace IRDiagnostics

namespace Config

def load (text : String) : Except ConfigError Config :=
  match ofText? text with
  | some config => config.validate
  | none => .error (.malformed "not a configuration in TOML")

/--
What may be found where a configuration file is expected.
-/
inductive Source where
  | absent
  | directory
  | file (bytes : ByteArray)

/--
Only a file with a text can be read.
-/
def Source.text? : Source → Except ConfigError String
  | .absent => .error (.unreadable "no such file")
  | .directory => .error (.unreadable "is a directory")
  | .file bytes =>
    match String.fromUTF8? bytes with
    | some text => .ok text
    | none => .error (.unreadable "not in UTF-8")

def Source.load (source : Source) : Except ConfigError Config := do
  Config.load (← source.text?)

end Config

end IRDiagnostics
