import WorkflowExchange.Description.Provider
import WorkflowExchange.Log.Trial
import WorkflowExchange.Settings.Basic
import WorkflowExchange.Text.Lowercase

/-!
# Description services

Two services write descriptions: Gemini and OpenAI.  An `Account` names the
service and what is needed to use it, and the settings choose it.  What is sent
to a service is a `Call`, and the response to the last call becomes the reply of
the provider.
-/

namespace WorkflowExchange

inductive Service where
  | gemini
  | openAI
  deriving DecidableEq

namespace Service

def name : Service → String
  | .gemini => "gemini"
  | .openAI => "openai"

/-- The client library of a service is not installed. -/
def notInstalled : Service → String
  | .gemini =>
    "El paquete 'google-generativeai' no está instalado. " ++
      "Ejecuta: pip install google-generativeai"
  | .openAI =>
    "El paquete 'openai' no está instalado. Ejecuta: pip install openai"

def keyMissing : Service → String
  | .gemini =>
    "API key de Gemini no encontrada. " ++
      "Configura la variable de entorno GEMINI_API_KEY."
  | .openAI => "API key de OpenAI no encontrada."

end Service

structure Account where
  service : Service
  apiKey : String
  model : String
  timeout : Binary64
  maxWords : Value

/-- Something sent to a service. -/
structure Call where
  action : String
  arguments : Value

/-- What a service responds: a fault or a text, if it has one. -/
abbrev Response := Except Fault (Option String)

namespace Account

/-- What an account remembers, by name.  The client of OpenAI remembers the
timeout itself. -/
def fields (account : Account) : List (String × Value) :=
  [("name", .text account.service.name), ("api_key", .text account.apiKey),
    ("max_words", account.maxWords)] ++
    match account.service with
    | .gemini =>
      [("model_name", .text account.model), ("timeout", .float account.timeout)]
    | .openAI => [("model", .text account.model)]

/-- The calls with which the use of a service begins. -/
def opening (account : Account) : List Call :=
  match account.service with
  | .gemini =>
    [⟨"configure", .ofFields [("api_key", .text account.apiKey)]⟩,
      ⟨"model", .ofFields [("model", .text account.model)]⟩]
  | .openAI =>
    [⟨"client", .ofFields
      [("api_key", .text account.apiKey), ("timeout", .float account.timeout),
        ("max_retries", .int 0)]⟩]

/-- How freely a service words its response. -/
def temperature : Binary64 := .ofRatio false 1 5

def maxTokens : Int := 100

def request (account : Account) (writer : Writer) (heap : Heap) (summary : Value) :
    Except Fault Call := do
  let prompt ← Provider.prompt writer account.maxWords heap summary
  match account.service with
  | .gemini =>
    pure ⟨"generate_content", .ofFields
      [("prompt", .ofWide prompt),
        ("generation_config", .ofFields
          [("temperature", .float temperature),
            ("max_output_tokens", .int maxTokens)]),
        ("request_options", .ofFields
          [("timeout", .float account.timeout)])]⟩
  | .openAI =>
    pure ⟨"create", .ofFields
      [("model", .text account.model),
        ("messages", .plainList [.ofFields
          [("role", .text "user"), ("content", .ofWide prompt)]]),
        ("temperature", .float temperature), ("max_tokens", .int maxTokens)]⟩

/-- The description that a response gives.  Where Gemini has no text, there is
nothing to trim. -/
def interpret (account : Account) (response : Response) :
    Except Fault String := do
  match ← response, account.service with
  | some content, _ => pure (Text.trim content)
  | none, .openAI => pure ""
  | none, .gemini => .error .noAttribute

/-- The description of a workflow, and the calls made for it. -/
def describe (account : Account) (writer : Writer) (response : Response)
    (heap : Heap) (summary : Value) : Except Fault Wide × List Call :=
  match account.request writer heap summary with
  | .error fault => (.error fault, [])
  | .ok call => ((account.interpret response).map Wide.ofString, [call])

end Account

/-- The provider that the settings choose. -/
inductive ProviderChoice where
  | mock
  | service (account : Account)

namespace ProviderChoice

def name : ProviderChoice → String
  | .mock => "mock"
  | .service account => account.service.name

def fields : ProviderChoice → List (String × Value)
  | .mock => [("name", .text mock.name)]
  | .service account => account.fields

def opening : ProviderChoice → List Call
  | .mock => []
  | .service account => account.opening

/-- The description that a chosen provider gives when its service would respond
in a certain way, and the calls made for it. -/
def describe (choice : ProviderChoice) (writer : Writer) (response : Response)
    (heap : Heap) (summary : Value) : Except Fault Wide × List Call :=
  match choice with
  | .mock => (Provider.plainWording writer heap summary, [])
  | .service account => account.describe writer response heap summary

end ProviderChoice

inductive Unusable where
  | notInstalled (service : Service)
  | keyMissing (service : Service)
  | unknownKind (kind : String)
  deriving DecidableEq

def providerKinds : List String := ["disabled", "mock", "gemini", "openai"]

def Unusable.message : Unusable → String
  | .notInstalled service => service.notInstalled
  | .keyMissing service => service.keyMissing
  | .unknownKind kind =>
    "Tipo de proveedor desconocido: " ++ kind ++ ". Tipos válidos: " ++
      String.intercalate ", " providerKinds

namespace Settings

/-- The kind of provider in lower case; no kind at all disables descriptions. -/
def providerKind (settings : Settings) : String :=
  if settings.provider.isEmpty then "disabled" else Text.lower settings.provider

/-- The account for a service.  A missing client library is noticed before a
missing key. -/
def account (settings : Settings) (missing : List Service) (service : Service) :
    Except Unusable Account :=
  let key? :=
    match service with
    | .gemini => settings.geminiKey
    | .openAI => settings.openAIKey
  if service ∈ missing then .error (.notInstalled service)
  else
    match key? with
    | none => .error (.keyMissing service)
    | some key =>
      if key.isEmpty then .error (.keyMissing service)
      else
        .ok
          { service
            apiKey := key
            model :=
              match service with
              | .gemini => settings.geminiModel
              | .openAI => settings.openAIModel
            timeout := settings.timeout
            maxWords := settings.maxWords }

/-- The provider that the settings choose, if any. -/
def chooseProvider (settings : Settings) (missing : List Service) :
    Except Unusable (Option ProviderChoice) :=
  let kind := settings.providerKind
  if kind ∈ ["disabled", "none", "off"] then .ok none
  else if kind = "mock" then .ok (some .mock)
  else if kind = "gemini" then
    (settings.account missing .gemini).map (some <| .service ·)
  else if kind = "openai" then
    (settings.account missing .openAI).map (some <| .service ·)
  else .error (.unknownKind kind)

/-- The provider that the settings choose; a choice that cannot be used is
logged and disables descriptions. -/
def usableProvider (settings : Settings) (missing : List Service) :
    Option ProviderChoice × List Log.Message :=
  match settings.chooseProvider missing with
  | .error reason =>
    (none, [⟨.error, "Description provider '%s' disabled: %s",
      [.text settings.provider, .text reason.message]⟩])
  | .ok none =>
    (none, [⟨.info,
      "Auto description generation is disabled; using heuristic descriptions",
      []⟩])
  | .ok (some choice) =>
    (some choice, [⟨.info, "Description provider initialized: %s",
      [.text choice.name]⟩])

end Settings

end WorkflowExchange
