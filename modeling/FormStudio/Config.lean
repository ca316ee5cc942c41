import FormStudio.Table
import FormStudio.Text.Integer
import FormStudio.Text.Upper

/-!
# Configuration

Settings of the tool, with a value for each, read from environment variables where they are set. A
variable that is not set leaves the standard value.
-/
namespace FormStudio

/-- The settings. -/
structure Config where
  /-- The library a form is generated for when none is chosen. -/
  defaultLibrary : String := "react-hook-form"
  /-- The file of the preferences; none for the standard place. -/
  preferencesPath : Option String := none
  /-- The port of the web server. -/
  serverPort : Int := 9110
  /-- The transport of the tool server. -/
  toolTransport : String := "stdio"
  /-- The port of the tool server. -/
  toolPort : Int := 8080
  /-- Blanks per level in JSON texts, or none for one line. -/
  indent : Option Int := some 2
  logLevel : String := "INFO"
  verbose : Bool := false
  deriving DecidableEq, Repr

namespace Config

def standard : Config := {}

/-- An integer setting: the variable if it is set, else a fallback. -/
def integerSetting (environment : Table String) (key : String) (fallback : Int) :
    Except IntegerFault Int :=
  match Table.get? key environment with
  | some text => readInteger text
  | none => .ok fallback

/-- The settings of an environment. The ports and the indent are integers; the first that is not
one, in this order, is refused. -/
def ofEnvironment (environment : Table String) : Except IntegerFault Config := do
  let text (key fallback : String) := (Table.get? key environment).getD fallback
  let serverPort ← integerSetting environment "FORM_BUILDER_SERVER_PORT" standard.serverPort
  let toolPort ← integerSetting environment "MCP_PORT" standard.toolPort
  let indent ← integerSetting environment "FORM_BUILDER_INDENT_JSON" 2
  .ok {
    defaultLibrary := text "FORM_BUILDER_DEFAULT_LIBRARY" standard.defaultLibrary
    preferencesPath := Table.get? "FORM_BUILDER_PREFERENCES_PATH" environment
    serverPort
    toolTransport := text "MCP_TRANSPORT" standard.toolTransport
    toolPort
    indent := some indent
    logLevel := upperText (text "FORM_BUILDER_LOG_LEVEL" standard.logLevel)
    verbose := (text "FORM_BUILDER_VERBOSE_OUTPUT" "false").toLower == "true" }

/-- The style of the JSON texts that keep text as it is. -/
def style (config : Config) : Json.Style := .ofIndent config.indent false

def asciiStyle (config : Config) : Json.Style := .ofIndent config.indent true

end Config

end FormStudio
