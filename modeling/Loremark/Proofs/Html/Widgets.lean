import Loremark.Preview.Basic
import Loremark.Proofs.Html.Nesting

/-!
# Widgets as markup

Whatever is known of an entity, its widget is markup that can be written: the library gives every
attribute its name and escapes the value, and labels, records and names of kinds enter as texts.
-/

set_option autoImplicit false

namespace Loremark.Entity

open Html Markup

variable {strict : Bool} (r : Request)

/-- The attribute for a colour is sound. -/
@[simp] theorem accentStyle_isSound (accent : Text) : (accentStyle accent).isSound strict = true :=
  Attribute.isSound_all "style" _

/-- The data that a widget carries is sound. -/
@[simp] theorem data_isSound (mode : Mode) (state : String) :
    (r.data mode state).all (Attribute.isSound strict) = true := by
  simp +decide [Request.data]

/-- The icon of a kind can be written. -/
theorem icon_sound (kind : Kind) : Sound strict (icon kind) := ⟨by simp +decide, trivial⟩

/-- A named part of a widget can be written, whatever its text is. -/
theorem part_sound {name : String} (text : Text) : Sound strict (part name text) :=
  ⟨by simp +decide, trivial, trivial⟩

/-- The chip of a widget can be written. -/
theorem chip_sound (text : Text) : Sound strict (r.chip text) :=
  ⟨by simp +decide, icon_sound r.kind, part_sound text, trivial⟩

/-- The shape shown while a widget loads can be written. -/
theorem skeleton_sound (shape : String) : Sound strict (skeleton shape) :=
  ⟨by simp +decide, trivial⟩

/-- What pops up can be written if its body can. -/
theorem popover_sound {body : Fragment} (sound : SoundAll strict body) :
    Sound strict (popover body) := ⟨by simp +decide, sound⟩

/-- A widget that loads can be written. -/
theorem loading_sound (mode : Mode) : Sound strict (r.loading mode) := by
  cases mode with
  | inline =>
    have chip : Sound strict
        (.element .span [cssClass "sd-chip"] [icon r.kind, part "sd-chip-text" "...".toList]) :=
      ⟨by simp +decide, icon_sound r.kind, part_sound _, trivial⟩
    exact ⟨by simp +decide, chip, trivial⟩
  | compact => exact ⟨by simp +decide, skeleton_sound _, skeleton_sound _, trivial⟩
  | full => exact ⟨by simp +decide, skeleton_sound _, skeleton_sound _, skeleton_sound _, trivial⟩

/-- The body of a widget that failed can be written. -/
theorem errorBody_sound : SoundAll strict r.errorBody :=
  ⟨icon_sound r.kind, part_sound _, part_sound _, trivial⟩

/-- A widget that failed can be written. -/
theorem failed_sound (mode : Mode) : Sound strict (r.failed mode) := by
  cases mode with
  | inline => exact ⟨by simp +decide, chip_sound r _, popover_sound (errorBody_sound r), trivial⟩
  | compact => exact ⟨by simp +decide, icon_sound r.kind, part_sound _, trivial⟩
  | full => exact ⟨by simp +decide, errorBody_sound r⟩

/-- The picture of a record can be written. -/
theorem picture_sound (title : Text) (record : Record) :
    Sound strict (r.picture title record) := by
  rw [Request.picture]
  split
  · simp +decide [Sound]
  · exact ⟨by simp +decide, trivial⟩

/-- The body of a card can be written, whatever the record says. -/
theorem cardBody_sound (options : CardOptions) (title : Text) (record : Record) :
    SoundAll strict (r.cardBody options title record) := by
  have optionalPart (name : String) (text : Option Text) :
      SoundAll strict (text.map (part name)).toList := by
    cases text with
    | none => trivial
    | some words => exact ⟨part_sound words, trivial⟩
  rw [Request.cardBody]
  refine ⟨?_, part_sound _, part_sound _, soundAll_append.mpr ⟨optionalPart _ _, ?_⟩⟩
  · split
    · exact picture_sound r title record
    · exact icon_sound r.kind
  · have written := optionalPart "sd-description"
      (record.descriptionText.map fun text => truncate text options.limit)
    rwa [Option.map_map] at written

/-- A widget with a record can be written. -/
theorem loaded_sound (options : CardOptions) (mode : Mode) (record : Record) :
    Sound strict (r.loaded options mode record) := by
  cases mode with
  | inline =>
    exact ⟨by simp +decide, chip_sound r _, popover_sound (cardBody_sound r options _ record), trivial⟩
  | compact => exact ⟨by simp +decide, icon_sound r.kind, part_sound _, trivial⟩
  | full => exact ⟨by simp +decide, cardBody_sound r options _ record⟩

/-- The note on an unknown kind can be written. -/
theorem unsupported_sound (kindName : Text) (entity : Int) (label : Option Text) :
    Sound strict (unsupported kindName entity label) := ⟨by simp +decide, part_sound _, trivial⟩

end Loremark.Entity

namespace Loremark.Preview

/-- What a preview shows can be written, in whatever state the preview is. -/
theorem markup_sound {strict : Bool} (p : Preview) : Html.Markup.Sound strict p.markup := by
  rw [markup]
  split
  · exact Entity.unsupported_sound p.kindName p.entity p.label
  · dsimp only
    split
    · exact Entity.loading_sound _ p.mode
    · exact Entity.failed_sound _ p.mode
    · exact Entity.loaded_sound _ p.options p.mode _

end Loremark.Preview
