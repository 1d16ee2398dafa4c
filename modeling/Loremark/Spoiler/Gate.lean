import Loremark.Spoiler.Marker

/-!
# The spoiler gate

A gate compares the threshold of a spoiler with the chapter that the reader has reached, and
decides whether the spoiler is shown, blurred or left out. Settings can show everything, put a
fixed chapter in place of the reader's, and say what happens to spoilers without a chapter.
-/

set_option autoImplicit false

namespace Loremark.Spoiler

/-- What becomes of a spoiler. -/
inductive Decision where
  | reveal
  | blur
  | hide
  deriving DecidableEq, Repr, Inhabited

/-- The name of a decision. -/
def Decision.name : Decision → Text
  | .reveal => "reveal".toList
  | .blur => "blur".toList
  | .hide => "hide".toList

/-- The style of hidden spoilers that leaves them out. -/
def hideStyle : Text := "hide".toList

/-- The preferences of a reader. Every style and policy but `hide` counts as the milder one. -/
structure Settings where
  showAll : Bool := false
  /-- When positive, the chapter used in place of the reader's own. -/
  tolerance : Int := 0
  hiddenStyle : Text := "blur".toList
  unthresholded : Text := "reveal".toList
  deriving DecidableEq, Repr, Inhabited

/-- A reader's progress with the reader's preferences. -/
structure Gate where
  progress : Int := 0
  settings : Settings := {}
  deriving DecidableEq, Repr, Inhabited

namespace Gate

/-- The chapter that thresholds are compared with. -/
def effectiveProgress (gate : Gate) : Int :=
  if gate.settings.tolerance > 0 then gate.settings.tolerance else gate.progress

/-- What becomes of a spoiler that is not shown. -/
def hidden (gate : Gate) : Decision :=
  if gate.settings.hiddenStyle == hideStyle then .hide else .blur

/-- Whether a threshold is beyond what the reader has reached. -/
def isBeyond (gate : Gate) (threshold : Int) : Bool := threshold > gate.effectiveProgress

/-- Decides on a spoiler. -/
def decide (gate : Gate) (region : Region) : Decision :=
  if gate.settings.showAll then .reveal
  else
    match region.threshold with
    | none => if gate.settings.unthresholded == hideStyle then gate.hidden else .reveal
    | some threshold => if gate.isBeyond threshold then gate.hidden else .reveal

end Gate

/-- The headline over a spoiler that is not shown. -/
def Region.overlayLabel (region : Region) : Text :=
  match region.threshold with
  | some threshold => "Chapter ".toList ++ Text.ofInt threshold ++ " Spoiler".toList
  | none => "Spoiler".toList

/-- The explanation over a spoiler that is not shown. -/
def Gate.overlayHint (gate : Gate) (region : Region) : Text :=
  match region.threshold with
  | some threshold =>
    "Chapter ".toList ++ Text.ofInt threshold ++ " spoiler - You're at Chapter ".toList ++
      Text.ofInt gate.effectiveProgress ++ ". Click to reveal.".toList
  | none => "Spoiler content. Click to reveal.".toList

end Loremark.Spoiler
