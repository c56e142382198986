import RuleTemplate.Decode.Shape

/-!
# Settings

Where links lead to, and what the program logs. Every setting has a default.
-/

namespace RuleTemplate

/-- How lines of the log are written. -/
inductive LogFormat where
  | pretty | json
deriving DecidableEq, Repr

namespace LogFormat

/-- The formats, in the order in which errors list them. -/
def all : List LogFormat := [pretty, json]

/-- The name of a format. -/
def name : LogFormat → Text
  | pretty => "pretty"
  | json => "json"

end LogFormat

/-- The settings of links. -/
structure Settings.Urls where
  baseUrl : Text
deriving DecidableEq, Repr

/-- The settings of the log. -/
structure Settings.Logging where
  level : Text
  format : LogFormat
deriving DecidableEq, Repr

/-- All settings. -/
structure Settings where
  urls : Settings.Urls
  logging : Settings.Logging
deriving DecidableEq, Repr

namespace Settings

/-- The settings of links when nothing else is said. -/
def Urls.standard : Urls := ⟨"http://localhost:5000"⟩

/-- The settings of the log when nothing else is said. -/
def Logging.standard : Logging := ⟨"info", .pretty⟩

/-- The settings when nothing else is said. -/
def standard : Settings := ⟨.standard, .standard⟩

/-! ## Decoding -/

/-- The members of the settings of links. -/
def Urls.shape : Shape Urls := Urls.mk <$> .optional "base_url" .text Urls.standard.baseUrl

/-- The members of the settings of the log. -/
def Logging.shape : Shape Logging :=
  Logging.mk <$> .optional "level" .text Logging.standard.level
    <*> .optional "format" (.choice LogFormat.all LogFormat.name) Logging.standard.format

/-- The members of the settings. -/
def shape : Shape Settings :=
  Settings.mk <$> .optional "urls" (Urls.shape.decoder "UrlConfig") .standard
    <*> .optional "logging" (Logging.shape.decoder "LoggingConfig") .standard

/-- Decodes settings. -/
def decode : Decoder Settings := shape.decoder "Settings"

end Settings

end RuleTemplate
