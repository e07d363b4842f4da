import Inquiry.Index.Ranking
import Inquiry.Settings.Basic
import Inquiry.Store.Basic

/-! The part of the schema that a question is about, as text for a prompt. -/
namespace Inquiry

inductive Context where
  | irrelevant
  /-- The collections described, best first. -/
  | relevant (text : String) (collections : List String)

namespace Context

structure Source where
  index : Index
  store : Store
  ranking : Settings.Ranking
  sampleLength : Nat

def heading : String :=
  "## Available MongoDB Collections\n\nIMPORTANT: Use ONLY the field names shown below. Do NOT invent field names.\n\n"

def quoted (name : String) : String := "`" ++ name ++ "`"

def staticLine (field : Field) : String := "  - " ++ quoted field.name ++ ": " ++ field.kind ++ "\n"

def liveLine (live : FieldSample) : String :=
  "  - " ++ quoted live.field.name ++ ": " ++ live.field.kind ++ " (e.g., " ++ live.sample ++ ")\n"

def fieldLines (source : Source) (name : String) (entry : Index.Entry) : String :=
  match source.store.fieldSamples name source.sampleLength with
  | [] => String.join ((entry.fields.take source.ranking.staticFields).map staticLine)
  | live => String.join (live.map liveLine)

def relevantLine (names : List String) : String :=
  if names.isEmpty then ""
  else "Most relevant fields: " ++ ", ".intercalate (names.map quoted) ++ "\n"

def describe (source : Source) (question : Vector32) (name : String) (entry : Index.Entry) :
    String :=
  let nearest := Index.rankFields source.index question name source.ranking.topFields
  "### Collection: " ++ quoted name ++ "\nDocument Count: " ++ Decimal.natText entry.count
    ++ "\n\n**Fields (from a live sample document):**\n" ++ fieldLines source name entry
    ++ relevantLine (nearest.map (·.name)) ++ "\n"

def selected (source : Source) (ranked : List Index.Scored) : List (String × Index.Entry) :=
  (ranked.filter fun scored => source.ranking.minScore ≤ scored.score).filterMap fun scored =>
    (source.index.get? scored.name).map (scored.name, ·)

def build (source : Source) (question : Vector32) : Context :=
  let ranked := Index.rankCollections source.index question source.ranking.topCollections
  match ranked with
  | [] => .irrelevant
  | best :: _ =>
    if source.ranking.minTopScore ≤ best.score then
      let chosen := selected source ranked
      .relevant
        (heading ++ String.join (chosen.map fun (name, entry) => describe source question name entry))
        (chosen.map (·.1))
    else .irrelevant

end Context
end Inquiry
