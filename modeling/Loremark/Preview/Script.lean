import Loremark.Preview.Basic

/-!
# Scripts

A store that answers by rote: every entity has replies that are given in turn, the last of them
again and again. An entity without replies does not exist.
-/

set_option autoImplicit false

namespace Loremark.Preview

/-- The replies still to be given, by the name of the call. -/
structure Script where
  replies : List (Text × List Reply) := []
  deriving Inhabited

/-- The reply for an entity that the store does not have. -/
def Reply.nothing : Reply := { outcome := .payload .null }

/-- The reply to give next, and the replies that are left. -/
def takeReply : List Reply → Reply × List Reply
  | [] => (.nothing, [])
  | [last] => (last, [last])
  | reply :: replies => (reply, replies)

/-- Takes the next reply to a call. -/
def Script.takeFrom (name : Text) : List (Text × List Reply) → Reply × List (Text × List Reply)
  | [] => (.nothing, [])
  | (other, replies) :: rest =>
    if other == name then
      let (reply, left) := takeReply replies
      (reply, (other, left) :: rest)
    else
      let (reply, rest) := takeFrom name rest
      (reply, (other, replies) :: rest)

/-- Answers a call. -/
def Script.answer (script : Script) (call : Call) : Reply × Script :=
  let (reply, replies) := takeFrom call.name script.replies
  (reply, ⟨replies⟩)

/-- Adds a reply behind those to the same call. -/
def Script.addTo (name : Text) (reply : Reply) :
    List (Text × List Reply) → List (Text × List Reply)
  | [] => [(name, [reply])]
  | (other, replies) :: rest =>
    if other == name then (other, replies ++ [reply]) :: rest
    else (other, replies) :: addTo name reply rest

/-- The script that gives replies to calls in order. -/
def Script.ofReplies (replies : List (Call × Reply)) : Script :=
  ⟨replies.foldl (fun all (call, reply) => addTo call.name reply all) []⟩

end Loremark.Preview
