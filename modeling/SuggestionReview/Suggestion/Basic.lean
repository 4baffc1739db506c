import SuggestionReview.Reference

namespace SuggestionReview

open Json (Reader Value)
open Json.Reader (once required nullable text skipMember fieldInOrder? recordOf listOf mismatch)

structure Suggestion where
  title : String
  message : Option String
  payload : Payload

namespace Suggestion

def messageText (s : Suggestion) : Option String :=
  s.message.filter (· ≠ "")

def toValue (s : Suggestion) : Value :=
  .object <|
    ("title", .text s.title) ::
      optionalMember "message" (s.message.map .text) ++ [("payload", s.payload.toValue)]

structure Fields where
  title : Option String
  message : Option (Option String)
  payload : Option Payload

def Fields.visit (depth : Nat) (f : Fields) (key : String) : Reader Fields := do
  match key with
  | "title" => do
    let title ← once "title" f.title text
    pure { f with title := some title }
  | "message" => do
    let message ← once "message" f.message (nullable text)
    pure { f with message := some message }
  | "payload" => do
    let payload ← once "payload" f.payload (Payload.read depth)
    pure { f with payload := some payload }
  | _ => do skipMember; pure f

def Fields.finish (f : Fields) : Reader Suggestion := do
  let title ← required "title" f.title
  let payload ← required "payload" f.payload
  pure ⟨title, f.message.join, payload⟩

def inOrder (depth : Nat) : Reader Suggestion := do
  let short (n : Nat) : Reader Suggestion :=
    mismatch (.wrongLength n "struct TransformerAction with 3 elements")
  let some title ← fieldInOrder? true text | short 0
  let message ← fieldInOrder? false (nullable text)
  let some payload ← fieldInOrder? false (Payload.read depth) | short 2
  pure ⟨title, message.join, payload⟩

def read (depth : Nat) : Reader Suggestion :=
  recordOf "struct TransformerAction" Fields.visit ⟨none, none, none⟩ Fields.finish inOrder depth

def parse (s : String) : Except Json.Failure Suggestion :=
  (read Json.Reader.maxDepth).run s

end Suggestion

end SuggestionReview
