import ChatService.Json.Value
import ChatService.Page.Window
import ChatService.Search.Error
import ChatService.Text.Blank

/-!
# Search queries

A full-text query within one chat, and the window of its hits that is wanted.
-/

namespace ChatService.Search

structure Query where
  applicationToken : String
  chatNumber : Int
  text : String
  offset : Nat
  limit : Nat
deriving DecidableEq, Repr

namespace Query

/-- The query for a page of hits; its text may not be blank. -/
def ofPage (token : String) (chatNumber : Int) (text : String) (page : Page.Request) :
    Except SearchError Query :=
  if Text.isBlank text then .error (.invalidQuery "query can't be blank")
  else
    .ok
      { applicationToken := token, chatNumber, text, offset := page.offset, limit := page.limit }

/-- A search clause that compares a field with a value. -/
def term (field : String) (value : Json) : Json := .object [("term", .object [(field, value)])]

/-- The query for a search engine: token and chat must match exactly, and the text must match the
    body or the beginnings of its words, small misspellings allowed. Hits are wanted by ascending
    number. -/
def toJson (q : Query) : Json :=
  .object
    [("query",
        .object
          [("bool",
            .object
              [("must",
                .list
                  [term "application_token" (.text q.applicationToken),
                    term "chat_number" (.int q.chatNumber),
                    .object
                      [("multi_match",
                        .object
                          [("query", .text q.text),
                            ("fields", .list [.text "body", .text "body.ngram"]),
                            ("type", .text "best_fields"),
                            ("fuzziness", .text "AUTO")])]])])]),
      ("from", .nat q.offset), ("size", .nat q.limit),
      ("sort", .list [.object [("message_number", .object [("order", .text "asc")])]])]

end Query

end ChatService.Search
