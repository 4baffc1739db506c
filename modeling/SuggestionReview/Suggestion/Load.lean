import SuggestionReview.Environment
import SuggestionReview.Suggestion.Basic

namespace SuggestionReview

open Json (Reader Value)
open Json.Reader (once nullable skipMember fieldInOrder? recordOf listOf)

structure SuggestionFile where
  features : List Feature
  suggestions : List Suggestion
  mapping : Option FeatureMapping

namespace SuggestionFile

/-- The positions of names: as given, or else those of the columns. -/
def effectiveMapping (f : SuggestionFile) : FeatureMapping :=
  f.mapping.getD (.ofFeatures f.features)

def disagrees (f : SuggestionFile) : Bool :=
  match f.mapping with
  | some m => !m.isConsistentWith f.features
  | none => false

def toValue (f : SuggestionFile) : Value :=
  .object <|
    [("features", .array (f.features.map (·.toValue))),
      ("actions", .array (f.suggestions.map (·.toValue)))] ++
    optionalMember "feature_id_mapping" (f.mapping.map fun m ↦
      .object (m.entries.map fun (name, i) ↦ (name, .number (.integer i))))

structure Fields where
  features : Option (List Feature)
  suggestions : Option (List Suggestion)
  mapping : Option (Option FeatureMapping)

def Fields.visit (depth : Nat) (f : Fields) (key : String) : Reader Fields := do
  match key with
  | "features" => do
    let features ← once "features" f.features (listOf Feature.read depth)
    pure { f with features := some features }
  | "actions" => do
    let suggestions ← once "actions" f.suggestions (listOf Suggestion.read depth)
    pure { f with suggestions := some suggestions }
  | "feature_id_mapping" => do
    let mapping ← once "feature_id_mapping" f.mapping (nullable (FeatureMapping.read depth))
    pure { f with mapping := some mapping }
  | _ => do skipMember; pure f

def Fields.finish (f : Fields) : Reader SuggestionFile :=
  pure ⟨f.features.getD [], f.suggestions.getD [], f.mapping.join⟩

def inOrder (depth : Nat) : Reader SuggestionFile := do
  let some features ← fieldInOrder? true (listOf Feature.read depth) | pure ⟨[], [], none⟩
  let some suggestions ← fieldInOrder? false (listOf Suggestion.read depth)
    | pure ⟨features, [], none⟩
  let mapping ← fieldInOrder? false (nullable (FeatureMapping.read depth))
  pure ⟨features, suggestions, mapping.join⟩

def read (depth : Nat) : Reader SuggestionFile :=
  recordOf "struct Suggestions" Fields.visit ⟨none, none, none⟩ Fields.finish inOrder depth

def parse (s : String) : Except Json.Failure SuggestionFile :=
  (read Json.Reader.maxDepth).run s

inductive LoadFailure where
  | unreadable (path : String) (fault : FileFault)
  | malformed (path : String) (failure : Json.Failure)

def LoadFailure.message : LoadFailure → String
  | unreadable path fault => "failed to read suggestions from " ++ path ++ ": " ++ fault.message
  | malformed path failure => "invalid suggestions file " ++ path ++ ": " ++ failure.message

def load (files : Files) (path : String) : Except LoadFailure SuggestionFile := do
  let s ← (files.text path).mapError (.unreadable path)
  (parse s).mapError (.malformed path)

end SuggestionFile

end SuggestionReview
