import Loremark.Preview.Session

/-!
# What scripts answer

Replies can be given to calls at will: the script of any replies answers the calls with them
(`Script.answers_ofReplies`). The replies to calls of different names do not get into each other's
way, and the last reply to calls of a name is never used up, so that the replies still to be given
are a front of those that the script has left (`Script.answers_of_prefix`).
-/

set_option autoImplicit false

namespace Loremark.Preview

/-- The replies to calls that are made one after another. -/
def Script.answers (script : Script) : List Call → List Reply
  | [] => []
  | call :: calls => (script.answer call).1 :: (script.answer call).2.answers calls

/-- Every call gets a reply. -/
theorem Script.length_answers (script : Script) (calls : List Call) :
    (script.answers calls).length = calls.length := by
  induction calls generalizing script with
  | nil => rfl
  | cons call calls ih => rw [answers, List.length_cons, ih, List.length_cons]

/-- The replies that are left to calls of a name. -/
def Script.repliesTo (name : Text) : List (Text × List Reply) → List Reply
  | [] => []
  | (other, replies) :: rest => if other == name then replies else repliesTo name rest

/-- The replies that are given to calls of a name. -/
def Script.repliesIn (name : Text) (given : List (Call × Reply)) : List Reply :=
  (given.filter fun entry => entry.1.name == name).map Prod.snd

namespace Script

variable {name : Text} {all : List (Text × List Reply)}

/-- A reply that is added for a name is the last one for that name, and the others keep theirs. -/
theorem repliesTo_addTo (own : Text) (reply : Reply) :
    repliesTo name (addTo own reply all) =
      repliesTo name all ++ if own == name then [reply] else [] := by
  induction all with
  | nil => rfl
  | cons entry rest ih =>
    obtain ⟨other, replies⟩ := entry
    rw [addTo]
    by_cases same : other = own
    · rw [if_pos (beq_iff_eq.mpr same), repliesTo, repliesTo, same]
      split
      · rfl
      · rw [List.append_nil]
    · rw [if_neg (by simpa using same), repliesTo, repliesTo, ih]
      split
      · rename_i here
        have elsewhere : own ≠ name := fun there => same ((beq_iff_eq.mp here).trans there.symm)
        rw [if_neg (by simpa using elsewhere), List.append_nil]
      · rfl

/-- The replies of the script of given ones are those given. -/
theorem repliesTo_ofReplies (given : List (Call × Reply)) :
    repliesTo name (ofReplies given).replies = repliesIn name given := by
  have grown (all : List (Text × List Reply)) : repliesTo name
      (given.foldl (fun all entry => addTo entry.1.name entry.2 all) all) =
      repliesTo name all ++ repliesIn name given := by
    induction given generalizing all with
    | nil => exact (List.append_nil _).symm
    | cons entry given ih =>
      obtain ⟨call, reply⟩ := entry
      rw [List.foldl_cons, ih, repliesTo_addTo, List.append_assoc, repliesIn, repliesIn,
        List.filter_cons]
      dsimp only
      split <;> rfl
  exact grown []

/-- What is taken for a name is taken from its replies. -/
theorem takeFrom_fst (own : Text) :
    (takeFrom own all).1 = (takeReply (repliesTo own all)).1 := by
  induction all with
  | nil => rfl
  | cons entry rest ih =>
    obtain ⟨other, replies⟩ := entry
    rw [takeFrom, repliesTo]
    split
    · rfl
    · exact ih

/-- Taking a reply to a call leaves the replies to calls of other names alone. -/
theorem repliesTo_takeFrom (own : Text) :
    repliesTo name (takeFrom own all).2 =
      if own == name then (takeReply (repliesTo name all)).2 else repliesTo name all := by
  induction all with
  | nil => rw [takeFrom, repliesTo, takeReply, ite_self]
  | cons entry rest ih =>
    obtain ⟨other, replies⟩ := entry
    rw [takeFrom]
    by_cases same : other = own
    · rw [if_pos (beq_iff_eq.mpr same)]
      dsimp only
      rw [repliesTo, repliesTo, same]
      split <;> rfl
    · rw [if_neg (by simpa using same)]
      dsimp only
      rw [repliesTo, repliesTo, ih]
      by_cases here : other = name
      · have elsewhere : own ≠ name := fun there => same (here.trans there.symm)
        rw [if_pos (beq_iff_eq.mpr here), if_pos (beq_iff_eq.mpr here),
          if_neg (by simpa using elsewhere)]
      · have elsewhere : ¬(other == name) = true := by simpa using here
        rw [if_neg elsewhere, if_neg elsewhere]

/-- What is left of replies that begin with another one begins with what is left of it. -/
theorem takeReply_of_prefix {reply : Reply} {given replies : List Reply}
    (front : reply :: given <+: replies) :
    (takeReply replies).1 = reply ∧ given <+: (takeReply replies).2 := by
  obtain ⟨more, rfl⟩ := front
  rw [List.cons_append]
  cases behind : given ++ more with
  | nil =>
    rw [(List.append_eq_nil_iff.mp behind).1]
    exact ⟨rfl, List.nil_prefix⟩
  | cons next rest => exact ⟨rfl, more, behind⟩

/-- A script whose replies to calls of each name begin with given ones gives these. -/
theorem answers_of_prefix {given : List (Call × Reply)} {script : Script}
    (front : ∀ name, repliesIn name given <+: repliesTo name script.replies) :
    script.answers (given.map Prod.fst) = given.map Prod.snd := by
  induction given generalizing script with
  | nil => rfl
  | cons entry given ih =>
    obtain ⟨call, reply⟩ := entry
    have own := front call.name
    rw [repliesIn, List.filter_cons_of_pos (by simp), List.map_cons] at own
    obtain ⟨first, later⟩ := takeReply_of_prefix own
    have behind (name : Text) : repliesIn name given <+:
        repliesTo name (script.answer call).2.replies := by
      change _ <+: repliesTo name (takeFrom call.name script.replies).2
      rw [repliesTo_takeFrom]
      split
      · rename_i same
        rw [← beq_iff_eq.mp same]
        exact later
      · rename_i other
        have others := front name
        rw [repliesIn, List.filter_cons, if_neg other] at others
        exact others
    have now : (script.answer call).1 = reply := (takeFrom_fst call.name).trans first
    rw [List.map_cons, List.map_cons, answers, ih behind, now]

/-- Any replies can be given to any calls. -/
theorem answers_ofReplies (given : List (Call × Reply)) :
    (ofReplies given).answers (given.map Prod.fst) = given.map Prod.snd :=
  answers_of_prefix fun _ => ⟨[], (List.append_nil _).trans (repliesTo_ofReplies given).symm⟩

end Script

end Loremark.Preview
