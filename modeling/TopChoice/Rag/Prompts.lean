/-
# Prompts and keyword tables

`apps/rag-svc/app/graph/prompts.py`: the keyword tables of the router and of the guard, the
blocks a prompt is put together from, and the locale of a message.  The long texts are
parameters (`Prompts`).
-/

import TopChoice.Rag.BuyerProfile
import TopChoice.Rag.ModelReply
import TopChoice.Rag.ThreadMemory

namespace TopChoice
namespace Rag

/-- The texts of the prompts. -/
structure Prompts where
  system : String
  fewShot : String
  noContextNote : String
  smalltalk : String
  router : String
  rewrite : String
  grade : String

/-! ### Keywords -/

/-- `ROUTE_KEYWORDS`. -/
def routeKeywords : List (Route × List String) := [
  (.handoff, [
    "speak to", "talk to a human", "human agent", "complaint", "complain", "refund", "lawyer",
    "legal action", "dispute", "sue", "manager", "أشكو", "شكوى", "محامي", "استرداد", "أتحدث مع",
    "موظف"]),
  (.web, [
    "interest rate", "mortgage rate", "market news", "latest news", "announced", "announcement",
    "inflation", "exchange rate", "usd", "دولار", "أسعار الفائدة", "أخبار", "التضخم"]),
  (.listingSearch, [
    "show me", "find me", "looking for", "available", "for sale", "for rent", "listings", "units",
    "apartment", "villa", "townhouse", "chalet", "studio", "duplex", "penthouse", "bedroom",
    "budget", "أبحث عن", "اعرض", "متاح", "للبيع", "للإيجار", "شقة", "فيلا", "تاون هاوس", "شاليه",
    "غرفة", "ميزانية"]),
  (.smalltalk, [
    "hello", "hi ", "hey", "good morning", "good evening", "thanks", "thank you", "who are you",
    "what can you do", "bye", "مرحبا", "أهلا", "السلام عليكم", "شكرا", "من أنت", "صباح الخير"])]

/-- `INJECTION_PATTERNS`. -/
def injectionPatterns : List String := [
  "ignore previous instructions", "ignore all previous", "ignore the above", "disregard previous",
  "disregard your instructions", "forget your instructions", "forget everything above",
  "you are now", "act as if you are", "pretend you are", "reveal your system prompt",
  "show me your system prompt", "print your instructions", "repeat your instructions",
  "what is your system prompt", "developer mode", "jailbreak", "do anything now",
  "تجاهل التعليمات", "تجاهل كل ما سبق", "اعرض التعليمات"]

/-- `OUT_OF_SCOPE_PATTERNS`. -/
def outOfScopePatterns : List String := [
  "write me a poem", "write a poem", "write me a story", "write a story", "tell me a joke",
  "write a song", "write lyrics", "write an essay", "write a haiku", "python function",
  "javascript function", "write code", "write a function", "sql query", "linked list",
  "binary tree", "regex for", "my code", "stack trace", "compile error", "in java", "in c++",
  "headache", "symptom", "diagnose", "prescription", "how many mg", "take for a", "see a doctor",
  "who won", "world cup", "capital of", "translate this", "recipe for", "how to cook",
  "weather in", "stock price", "football match", "election", "solve for x", "integral of",
  "derivative of", "اكتب لي قصيدة", "اكتب قصيدة", "اكتب قصة", "نكتة", "وصفة طبخ", "من فاز",
  "عاصمة"]

/-- `IN_SCOPE_TERMS`. -/
def inScopeTerms : List String := [
  "topchoice", "propert", "apartment", "villa", "townhouse", "twinhouse", "duplex", "penthouse",
  "studio", "chalet", "compound", "developer", "unit", "flat", "home", "house", "real estate",
  "mortgage", "instal", "down payment", "payment plan", "deposit", "delivery", "handover",
  "resale", "rent", "buy", "price", "budget", "bedroom", "bathroom", "sqm", "m2", "m²",
  "square met", "broker", "agent", "viewing", "contract", "egp", "million", "finish",
  "maintenance", "عقار", "شقة", "فيلا", "كمبوند", "مطور", "وحدة", "سعر", "تقسيط", "مقدم", "تسليم",
  "إيجار", "شراء", "غرفة", "ميزانية", "ناوي"]

/-- `ROUTE_VALUES`. -/
def routeValues : List Route := [.smalltalk, .listingSearch, .knowledge, .web, .handoff]

/-- The text of a route. -/
def Route.value : Route → String
  | smalltalk => "smalltalk"
  | listingSearch => "listing_search"
  | knowledge => "knowledge"
  | web => "web"
  | handoff => "handoff"

/-- The route a text names. -/
def Route.ofText (selected : PyStr) : Option Route :=
  routeValues.find? fun route => selected = .ofString route.value

/-- `" ".join(text.lower().split())`. -/
def normalised (u : Unicode) (text : String) : String := " ".intercalate (words (u.lower text))

/-- `any(pattern in normalised for pattern in patterns)`. -/
def mentions (patterns : List String) (normalised : String) : Bool :=
  patterns.any fun pattern => decide (pattern.toList <:+: normalised.toList)

/-- `looks_like_injection`. -/
def looksLikeInjection (u : Unicode) (text : String) : Bool :=
  mentions injectionPatterns (normalised u text)

/-- `looks_out_of_scope`. -/
def looksOutOfScope (u : Unicode) (text : String) : Bool :=
  let normalised := normalised u text
  if normalised = "" then false
  else if mentions inScopeTerms normalised then false
  else mentions outOfScopePatterns normalised

/-- `keyword_route`. -/
def keywordRoute (u : Unicode) (text : String) : Route :=
  ((routeKeywords.find? fun entry => mentions entry.2 (normalised u text)).map Prod.fst).getD
    .knowledge

/-- `locale.startswith("ar")`. -/
def isArabic (locale : String) : Bool := "ar".toList.isPrefixOf locale.toList

/-- `guard_reply`. -/
def guardReply (locale : String) : String :=
  if isArabic locale then
    "أقدر أساعدك فقط في استفسارات العقارات على TopChoice: الوحدات والكمبوندات " ++
      "والمطورين وخطط السداد وإجراءات الشراء. عن أي شيء تبحث؟"
  else
    "I can only help with TopChoice property questions: listings, compounds, " ++
      "developers, payment plans and the buying process. What are you looking for?"

/-- `detect_locale`: more than three letters in ten are Arabic. -/
def detectLocale (python : Python) (text : String) : String :=
  let letters := text.toList.filter python.isAlpha
  let arabic := letters.countP fun c => 0x600 ≤ c.toNat ∧ c.toNat ≤ 0x6FF
  if letters = [] then "en" else if 3 * letters.length < 10 * arabic then "ar" else "en"

/-! ### The blocks of a prompt -/

/-- A message of a generation request. -/
structure Message where
  role : Role
  content : String
  deriving DecidableEq, Repr

/-- `build_system_prompt`. -/
def buildSystemPrompt (prompts : Prompts) (locale : String) (hasContext includeFewShot : Bool) :
    String :=
  let parts := [prompts.system] ++ (if includeFewShot then [prompts.fewShot] else []) ++
    (if hasContext then [] else [prompts.noContextNote]) ++
    (if isArabic locale then
      ["\n## This turn\nThe user is writing in Arabic — answer in Arabic."] else [])
  "\n\n".intercalate ((parts.map strip).filter (· ≠ ""))

/-- A passage of the context: its title, its content, and where it is from. -/
structure Passage where
  title : String
  content : String
  uri : Option String := none
  deriving DecidableEq, Repr

/-- `format_context_block`. -/
def formatContextBlock (sources : List Passage) : String :=
  if sources = [] then "CONTEXT: (nothing retrieved for this question)"
  else
    let lines := sources.mapIdx fun index source =>
      let title := strip (if source.title = "" then "source" else source.title)
      let uri := match source.uri with
        | some uri => if uri = "" then "" else " (" ++ uri ++ ")"
        | none => ""
      "[" ++ toString (index + 1) ++ "] " ++ title ++ uri ++ "\n" ++ strip source.content
    "\n\n".intercalate ("CONTEXT — cite these as [1], [2], …:" :: lines)

end Rag
end TopChoice
