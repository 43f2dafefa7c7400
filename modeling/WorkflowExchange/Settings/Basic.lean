import WorkflowExchange.Value.Basic

/-!
# Settings

The settings of the exchange and the values they have unless they are set.
-/

namespace WorkflowExchange

/-- The settings of the exchange. -/
structure Settings where
  appEnvironment : String := "dev"
  databaseUrl : String := "sqlite:///./marketplace.db"
  echoStatements : Bool := false
  logLevel : String := "INFO"
  /-- The web origins that may call the exchange from a browser. -/
  origins : List String := ["http://localhost:5173", "http://localhost:3000"]
  /-- The kind of description provider. -/
  provider : String := "disabled"
  geminiKey : Option String := none
  geminiModel : String := "gemini-1.5-flash"
  openAIKey : Option String := none
  openAIModel : String := "gpt-4o-mini"
  /-- How long a description may take, in seconds. -/
  timeout : Binary64 := Binary64.ofRatio false 10 1
  /-- The number of words that a description may have. -/
  maxWords : Value := .int 30
  /-- The length that the summary for a provider may have. -/
  maxSummary : Value := .int 8000
  /-- Does publishing require the right to update? -/
  strict : Bool := false

/-- The settings by name. -/
def Settings.fields (settings : Settings) : List (String × Value) :=
  [("app_env", .text settings.appEnvironment),
    ("database_url", .text settings.databaseUrl),
    ("sql_echo", .bool settings.echoStatements),
    ("log_level", .text settings.logLevel),
    ("cors_origins", .plainList (settings.origins.map .text)),
    ("ia_provider", .text settings.provider),
    ("gemini_api_key", .ofText? settings.geminiKey),
    ("gemini_model", .text settings.geminiModel),
    ("openai_api_key", .ofText? settings.openAIKey),
    ("openai_model", .text settings.openAIModel),
    ("description_timeout_sec", .float settings.timeout),
    ("description_max_words", settings.maxWords),
    ("description_summary_max_chars", settings.maxSummary),
    ("publish_requires_update_scope", .bool settings.strict)]

end WorkflowExchange
