import KlassGateway.Lib.Search
/-!
# Answers of OpenRouter

Model of `clean_markdown_json` in `providers/openrouter.rs`, which takes JSON out
of the text that surrounds it.
-/

namespace KlassGateway.Providers

open Lib Text

/-- The fallback of `clean_markdown_json`: the text without its fences. -/
def stripFences (trimmed : String) : String :=
  let stripped :=
    if startsWith trimmed "```json" then trim (trimStartMatches trimmed "```json")
    else if startsWith trimmed "```" then trim (trimStartMatches trimmed "```")
    else trimmed
  if endsWith stripped "```" then trim (trimEndMatches stripped "```") else stripped

/-- `clean_markdown_json`.  It is `none` where the slice is not cut at characters. -/
def cleanMarkdownJson (raw : String) : Option String :=
  let trimmed := trim raw
  match find trimmed "\x7b", rfind trimmed '}' with
  | some start, some stop =>
    if start < stop then slice trimmed start (stop + 1) else some (stripFences trimmed)
  | _, _ => some (stripFences trimmed)

end KlassGateway.Providers
