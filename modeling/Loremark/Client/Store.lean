import Loremark.Client.Basic
import Loremark.Preview.Script

/-!
# The client as a store for previews

Previews ask for entities, and the client asks the store for each of them in turn. However a request
ends, the preview is told: that there is an entity, that there is none, or why nothing is known.
-/

set_option autoImplicit false

namespace Loremark.Client

/-- The sort of a fault as reports name it. -/
def Fault.sort : Fault → Text
  | address _ => "InvalidURL".toList
  | overlong _ | noScheme _ => "ValueError".toList

/-- How the lookup of a preview ends. -/
def outcome : Except Fault Fetched → Preview.Outcome
  | .ok (.found entries) => .payload (.dict entries)
  | .ok .missing => .payload .null
  | .ok (.failed reason status) => .refused reason status
  | .error cause => .broken cause.sort cause.message

/-- Answers a call, when the store replies in a given way: the request that is sent, if there is
one, and what the preview is told. -/
def answer (client : Client) (call : Preview.Call) (reply : Reply) :
    Option Request × Preview.Reply :=
  let (sent, fetched) := client.fetch call.kind call.entity reply
  let events :=
    match fetched with
    | .ok _ => (reply.event? call.kind call.entity).toList
    | .error _ => []
  (sent, { events, outcome := outcome fetched })

/-- Answers calls in order, with the replies of the store in order: the requests that are sent, and
what the previews are told. -/
def answerEach (client : Client) : List Reply → List Preview.Call →
    List Request × List (Preview.Call × Preview.Reply)
  | _, [] => ([], [])
  | replies, call :: calls =>
    let (reply, left) := nextReply replies
    let (sent, told) := client.answer call reply
    let (requests, rest) := client.answerEach (if sent.isSome then left else replies) calls
    (sent.toList ++ requests, (call, told) :: rest)

end Loremark.Client
