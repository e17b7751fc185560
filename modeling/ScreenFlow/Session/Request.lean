import ScreenFlow.Json.Members
import ScreenFlow.Reader.Union

/-!
# Requests to a session
-/

namespace ScreenFlow

/-- What a host passes on from its user. -/
inductive Request
  | view
  | inputChange (screenId fieldId value : String)
  | buttonClick (screenId buttonId : String)
  deriving DecidableEq

namespace Request

/-- The kinds of request, by their tags. -/
def union : Union Request where
  name := "Request"
  tag := "kind"
  variants :=
    [("view", .unit view),
      ("input_change", .record "struct variant Request::InputChange" <|
        Fields.make inputChange
          |>.required "screen_id" .text
          |>.required "field_id" .text
          |>.required "value" .text),
      ("button_click", .record "struct variant Request::ButtonClick" <|
        Fields.make buttonClick
          |>.required "screen_id" .text
          |>.required "button_id" .text)]
  fallback := none

def reader : Reader Request := union.reader

def write : Request → Json
  | view => .obj (Json.always "kind" (.str "view"))
  | inputChange screenId fieldId value =>
    .obj (Json.always "kind" (.str "input_change") ++ Json.always "screen_id" (.str screenId) ++
      Json.always "field_id" (.str fieldId) ++ Json.always "value" (.str value))
  | buttonClick screenId buttonId =>
    .obj (Json.always "kind" (.str "button_click") ++ Json.always "screen_id" (.str screenId) ++
      Json.always "button_id" (.str buttonId))

end Request

end ScreenFlow
