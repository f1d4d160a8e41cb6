import Workflow.Execute.Entry

/-!
# Workflow.Execute.Retrieval

Retrieval nodes ask a storage for text that fits a query.
-/

namespace Workflow.Execute

open Run

/-- The query that an output is, or holds, or can be written as. -/
def queryOf (source : Value) : Except Fault Value := do
  let written : Except Fault Value := (jsonLine source).map .str
  match source with
  | .str _ => return source
  | .dict _ es =>
    let text := (Entries.field es "response").orElse (Entries.field es "userMessage")
    if text.truthy then return text else written
  | _ => written

/-- What narrows a search down, if anything does. -/
def searchFilters (n : Node) (searchType : Value) : Except Fault Value := do
  let fileNames ← n.setting "fileNames"
  let names := if fileNames.truthy then [("fileNames", fileNames)] else []
  let spread ← if isWord searchType "mmr" then n.setting "mmr_lambda" else pure .null
  let spread := match spread with
    | .null => []
    | v => [("mmr_lambda", v)]
  let metadata ← n.setting "filter_metadata"
  let filters := names ++ spread ++ (if metadata.truthy then [("filter_metadata", metadata)] else [])
  return if filters.isEmpty then .null else .record filters

/-- A retrieval node searches its storage. -/
def retrieval (plan : Plan) (n : Node) : Work Value := do
  let n ← Work.current n
  let inputs ← inputsOr plan n fun source => do return .record [("query", ← queryOf source)]
  Work.note plan n .info "Retrieval inputs resolved" (.record [("input", inputs)])
  let storage ← Work.lift (n.setting "storage_id")
  if !storage.truthy then Work.throw (.config .noStorage)
  let query ← Work.lift (inputs.read "query")
  let isText := match query with
    | .str s => !s.isEmpty
    | _ => false
  if !isText then Work.throw (.config .noQuery)
  let topK := (← Work.lift (n.setting "top_k")).orElse (.int 5)
  let searchType := (← Work.lift (n.setting "search_type")).orElse (.str "similarity")
  let filters ← Work.lift (searchFilters n searchType)
  Work.note plan n .info "Retrieval started"
    (.record [("storage_id", storage), ("query", query), ("top_k", topK)])
  Work.check (plan.reach .retrieval)
  let result := (← Work.call (.retrieval storage query topK searchType filters)).toValue
  match result.length? with
  | some length =>
    Work.note plan n .info "Retrieval completed" (.record [("result_length", .int length)])
    return result
  | none => Work.lift (.error (.noLength result.typeName))

end Workflow.Execute
