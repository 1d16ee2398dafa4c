import Loremark.Markdown.Plain
import Loremark.Proofs.Html.Nesting

/-!
# Plain output as markup

Code, tables, rules and markup of the author become markup that can be written. Its attribute values
keep their single quotes, so the output is well nested, but not strictly so.
-/

set_option autoImplicit false

namespace Loremark.Markdown

open Html Markup

/-- An attribute with a name is sound, whatever its value. -/
theorem plainAttribute_isSound {name : String} (named : isName name = true) (value : Text) :
    (plainAttribute name value).isSound false = true := by
  simp [plainAttribute, Attribute.isSound, Escaping.servesValues, named]

/-- The title of a link is a sound attribute. -/
theorem titleAttribute_isSound (target : Target) :
    (titleAttribute target).all (Attribute.isSound false) = true := by
  rw [titleAttribute]
  split
  · rfl
  · simp +decide [plainAttribute_isSound]

mutual

/-- Plain inline markup is sound. -/
theorem plainInline_sound (piece : Inline) : SoundAll false (plainInline piece) := by
  cases piece with
  | text value => exact ⟨trivial, trivial⟩
  | code content => exact ⟨⟨rfl, trivial, trivial⟩, trivial⟩
  | html content => exact ⟨trivial, trivial⟩
  | softBreak => exact ⟨newline_sound, trivial⟩
  | hardBreak => exact ⟨rfl, newline_sound, trivial⟩
  | span kind children => exact ⟨⟨rfl, plainInlines_sound children⟩, trivial⟩
  | link target children =>
    refine ⟨⟨?_, plainInlines_sound children⟩, trivial⟩
    simp +decide [plainAttribute_isSound, titleAttribute_isSound target]
  | image target label alt =>
    refine ⟨?_, trivial⟩
    simp +decide [Sound, plainAttribute_isSound, titleAttribute_isSound target]

/-- Plain inline markup in a row is sound. -/
theorem plainInlines_sound (pieces : List Inline) : SoundAll false (plainInlines pieces) := by
  cases pieces with
  | nil => trivial
  | cons piece pieces =>
    exact soundAll_append.mpr ⟨plainInline_sound piece, plainInlines_sound pieces⟩

end

/-- The alignment of a column is a sound attribute. -/
theorem align_isSound (align : Align) :
    align.attribute.all (Attribute.isSound false) = true := by
  cases align <;> simp +decide

/-- A row of a plain table is sound. -/
theorem plainRow_sound (cell : Tag) (columns : List Align) (cells : List (List Inline)) :
    SoundAll false (plainRow cell columns cells) := by
  refine soundAll_block.mpr ⟨rfl, ?_⟩
  induction columns.zip cells with
  | nil => trivial
  | cons entry entries ih =>
    obtain ⟨align, content⟩ := entry
    rw [List.flatMap_cons]
    have first : SoundAll false (line cell align.attribute (plainInlines content)) :=
      soundAll_line.mpr ⟨align_isSound align, plainInlines_sound content⟩
    exact soundAll_append.mpr ⟨first, ih⟩

/-- A plain table is sound. -/
theorem plainTable_sound (columns : List Align) (header : List (List Inline))
    (rows : List (List (List Inline))) : SoundAll false (plainTable columns header rows) := by
  have body : SoundAll false (rows.flatMap (plainRow .td columns)) := by
    induction rows with
    | nil => trivial
    | cons row rows ih => exact soundAll_append.mpr ⟨plainRow_sound .td columns row, ih⟩
  have head : SoundAll false (block .thead [] (plainRow .th columns header)) :=
    soundAll_block.mpr ⟨rfl, plainRow_sound .th columns header⟩
  refine soundAll_block.mpr ⟨rfl, soundAll_append.mpr ⟨head, ?_⟩⟩
  split
  · trivial
  · exact soundAll_block.mpr ⟨rfl, body⟩

/-- A block of plain code is sound. -/
theorem plainCode_sound (info content : Text) : SoundAll false (plainCode info content) := by
  rw [plainCode]
  refine soundAll_line.mpr ⟨rfl, ⟨?_, trivial, trivial⟩, trivial⟩
  split
  · rfl
  · simp +decide [plainAttribute_isSound]

/-- The plain output of a block can be written. -/
theorem plainBlock_sound (block : Block (List Inline)) : SoundAll false (plainBlock block) := by
  cases block with
  | code content => exact soundAll_line.mpr ⟨rfl, ⟨rfl, trivial, trivial⟩, trivial⟩
  | fence info content => exact plainCode_sound info content
  | html content => exact soundAll_line.mpr ⟨rfl, trivial, trivial⟩
  | rule => exact ⟨rfl, newline_sound, trivial⟩
  | table columns header rows => exact plainTable_sound columns header rows
  | _ => trivial

end Loremark.Markdown
