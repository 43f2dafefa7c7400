import WorkflowExchange.Intake.Field
import WorkflowExchange.Intake.Numeral
import WorkflowExchange.Json.Reader
import WorkflowExchange.Settings.Basic
import WorkflowExchange.Text.Lowercase

/-!
# Reading settings

Settings are read from named values or from environment variables.  The name of
a variable may be written in any case, and of two spellings the later one
counts.  The list of origins is given as JSON, where null leaves it out.
-/

namespace WorkflowExchange.Settings

/-- Read one setting, which keeps its usual value when it is left out. -/
def field {α : Type} (name : String) (rule : Rule α) (usual : α) (heap : Heap)
    (entries : List (Value × Value)) : Fit α :=
  (·.getD usual) <$> (Spelling.plain name).sent rule heap entries

/-- Read settings from named values. -/
def read (heap : Heap) (entries : List (Value × Value)) : Fit Settings :=
  let usual : Settings := {}
  mk
    <$> field "app_env" .text usual.appEnvironment heap entries
    <*> field "database_url" .text usual.databaseUrl heap entries
    <*> field "sql_echo" .truth usual.echoStatements heap entries
    <*> field "log_level" .text usual.logLevel heap entries
    <*> field "cors_origins" (.list .text) usual.origins heap entries
    <*> field "ia_provider" .text usual.provider heap entries
    <*> field "gemini_api_key" (.optional .text) usual.geminiKey heap entries
    <*> field "gemini_model" .text usual.geminiModel heap entries
    <*> field "openai_api_key" (.optional .text) usual.openAIKey heap entries
    <*> field "openai_model" .text usual.openAIModel heap entries
    <*> field "description_timeout_sec" .number usual.timeout heap entries
    <*> field "description_max_words" .integer usual.maxWords heap entries
    <*> field "description_summary_max_chars" .integer usual.maxSummary heap
      entries
    <*> field "publish_requires_update_scope" .truth usual.strict heap entries

/-- The variable of a name in any case; of several the last one. -/
def setting? (environment : List (String × String)) (name : String) :
    Option String :=
  (environment.reverse.find? fun candidate =>
    Text.lower candidate.1 = name).map (·.2)

def textNames : List String :=
  ["app_env", "database_url", "sql_echo", "log_level", "ia_provider",
    "gemini_api_key", "gemini_model", "openai_api_key", "openai_model",
    "description_timeout_sec", "description_max_words",
    "description_summary_max_chars", "publish_requires_update_scope"]

/-- Read settings from environment variables. -/
def ofEnvironment (environment : List (String × String)) : Fit Settings :=
  let texts := textNames.filterMap fun name =>
    (setting? environment name).map fun content =>
      (Value.text name, Value.text content)
  match setting? environment "cors_origins" with
  | none => read .empty texts
  | some content =>
    match Json.read content with
    | .ok .null => read .empty texts
    | .ok origins => read .empty ((.text "cors_origins", .ofJson origins) :: texts)
    | .error .tooDeep => .breaks .tooDeep
    | .error _ => .breaks .badSetting

end WorkflowExchange.Settings
