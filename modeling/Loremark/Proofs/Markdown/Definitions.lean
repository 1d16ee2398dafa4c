import Loremark.Markdown.Document
import Loremark.Proofs.Markdown.BlockReadings
import Loremark.Proofs.Markdown.Targets

/-!
# What labels stand for

A definition is only read if its address may be linked to, and no other block defines a label. So
the labels of a text, wherever among the blocks they are defined, stand for addresses that have been
tested, and its running texts lead to such addresses (`read_checked`).
-/

set_option autoImplicit false

namespace Loremark.Markdown

/-! ## Blocks in blocks -/

namespace Block

variable {Content : Type}

mutual

/-- The running texts of a block, tables apart. -/
def contents : Block Content → List Content
  | paragraph _ content => [content]
  | heading _ content => [content]
  | bulletList children => contentsAll children
  | orderedList _ children => contentsAll children
  | item children => contentsAll children
  | quote children => contentsAll children
  | container _ children => contentsAll children
  | _ => []

/-- The running texts of blocks, in order. -/
def contentsAll : List (Block Content) → List Content
  | [] => []
  | block :: blocks => contents block ++ contentsAll blocks

end

/-- The running texts of blocks are those of each of them. -/
theorem contentsAll_eq_flatMap (blocks : List (Block Content)) :
    contentsAll blocks = blocks.flatMap contents := by
  induction blocks with
  | nil => rfl
  | cons block blocks ih => rw [contentsAll, ih, List.flatMap_cons]

/-- The running texts of two lists of blocks follow each other. -/
theorem contentsAll_append (blocks others : List (Block Content)) :
    contentsAll (blocks ++ others) = contentsAll blocks ++ contentsAll others := by
  simp only [contentsAll_eq_flatMap, List.flatMap_append]

/-- Fewer blocks have fewer running texts. -/
theorem contentsAll_subset {blocks others : List (Block Content)} (fewer : blocks ⊆ others) :
    contentsAll blocks ⊆ contentsAll others := by
  intro content mem
  rw [contentsAll_eq_flatMap, List.mem_flatMap] at mem ⊢
  obtain ⟨block, inBlocks, here⟩ := mem
  exact ⟨block, fewer inBlocks, here⟩

section Map

variable {Read : Type} {read : Content → Read} {good : Read → Prop}

mutual

/-- What holds of all that is read holds of the texts of a block. -/
theorem contents_map (all : ∀ content, good (read content)) (block : Block Content) :
    ∀ content ∈ contents (map read block), good content := by
  cases block with
  | paragraph tight content => exact List.forall_mem_singleton.mpr (all content)
  | heading level content => exact List.forall_mem_singleton.mpr (all content)
  | bulletList children => exact contentsAll_mapAll all children
  | orderedList start children => exact contentsAll_mapAll all children
  | item children => exact contentsAll_mapAll all children
  | quote children => exact contentsAll_mapAll all children
  | container info children => exact contentsAll_mapAll all children
  | _ => exact List.forall_mem_nil _

/-- What holds of everything that is read holds of the running texts of blocks that are read. -/
theorem contentsAll_mapAll (all : ∀ content, good (read content)) (blocks : List (Block Content)) :
    ∀ content ∈ contentsAll (mapAll read blocks), good content := by
  cases blocks with
  | nil => exact List.forall_mem_nil _
  | cons block blocks =>
    have behind := contentsAll_mapAll all blocks
    rw [mapAll]
    split
    · exact behind
    · exact List.forall_mem_append.mpr ⟨contents_map all block, behind⟩

end

end Map

end Block

/-- A block that defines labels for addresses that may be linked to. -/
def Block.Checked (block : Block Text) : Prop := References.Checked block.definitions

/-- Blocks that define labels for such addresses. -/
def DefinesChecked (blocks : List (Block Text)) : Prop :=
  References.Checked (Block.definitionsAll blocks)

variable {frame : Frame} {line : Line} {lines rest : List Line} {block : Block Text}
  {blocks : List (Block Text)}

/-- No blocks define anything. -/
theorem definesChecked_nil : DefinesChecked [] := List.forall_mem_nil _

/-- Blocks define checked addresses if the first one does and the others do. -/
theorem definesChecked_cons :
    DefinesChecked (block :: blocks) ↔ block.Checked ∧ DefinesChecked blocks :=
  List.forall_mem_append

/-- A block without definitions defines nothing that has not been tested. -/
theorem checked_of_none (none : block.definitions = []) : block.Checked := by
  rw [Block.Checked, none]
  exact definesChecked_nil

/-! ## Blocks of lines -/

/-- The address of a definition has been tested. -/
theorem definitionOf?_checked {text key behind : Text} {target : Target}
    (found : definitionOf? text = some (key, target, behind)) : target.Checked := by
  have keyed {name address title after : Text} (allowed : isAllowedAddress address = true)
      (found : (if name.isEmpty then none else some (name, (⟨address, title⟩ : Target), after)) =
        some (key, target, behind)) : target.Checked := by
    split at found
    · cases found
    · cases found
      exact allowed
  rw [definitionOf?.eq_def] at found
  split at found
  · split at found
    · simp only [Option.bind_eq_bind, Option.bind_eq_some_iff] at found
      obtain ⟨⟨written, after, titled⟩, -, found⟩ := found
      dsimp only at found
      split at found
      · cases found
      · rename_i refused
        have allowed : isAllowedAddress (normalAddress written) = true := by simpa using refused
        -- A title that does not end its line is dropped, but the destination stays.
        split at found
        · obtain ⟨_, -, found⟩ := Option.bind_eq_some_iff.mp found
          exact keyed allowed found
        · split at found
          · exact keyed allowed found
          · split at found
            · cases found
            · obtain ⟨_, -, found⟩ := Option.bind_eq_some_iff.mp found
              exact keyed allowed found
    · cases found
  · cases found

/-- A link definition is checked. -/
theorem definition?_checked (read : definition? frame line lines = some (block, rest)) :
    block.Checked := by
  rw [definition?] at read
  split at read
  · cases read
  · obtain ⟨⟨key, target, behind⟩, found, same⟩ := Option.map_eq_some_iff.mp read
    obtain ⟨rfl, -⟩ := Prod.mk.inj same
    exact List.forall_mem_singleton.mpr (definitionOf?_checked found)

/-- A table is checked: it defines nothing. -/
theorem table?_checked (read : table? frame lines = .ok (some (block, rest))) :
    block.Checked := by
  rw [table?] at read
  split at read
  · cases read
  · simp only [bind, Except.bind, pure, Except.pure] at read
    split at read
    · cases read
    · cases read
      exact checked_of_none rfl

/-- Indented code is checked: it defines nothing. -/
theorem indentedCode?_checked (read : indentedCode? frame line lines = some (block, rest)) :
    block.Checked := by
  rw [indentedCode?] at read
  split at read
  · cases read
    exact checked_of_none rfl
  · cases read

/-- A rule is checked: it defines nothing. -/
theorem rule?_checked (read : rule? frame line lines = some (block, rest)) :
    block.Checked := by
  rw [rule?] at read
  split at read
  · cases read
    exact checked_of_none rfl
  · cases read

/-- Fenced code is checked: it defines nothing. -/
theorem fencedCode?_checked (read : fencedCode? frame line lines = some (block, rest)) :
    block.Checked := by
  obtain ⟨fence, -, same⟩ := Option.map_eq_some_iff.mp read
  obtain ⟨rfl, -⟩ := Prod.mk.inj same
  exact checked_of_none rfl

/-- A plain heading is checked: it defines nothing. -/
theorem plainHeading?_checked (read : plainHeading? frame line lines = some (block, rest)) :
    block.Checked := by
  obtain ⟨heading, -, same⟩ := Option.map_eq_some_iff.mp read
  obtain ⟨rfl, -⟩ := Prod.mk.inj same
  exact checked_of_none rfl

/-- An underlined heading is checked: it defines nothing. -/
theorem underlinedHeading?_checked
    (read : underlinedHeading? frame line lines = some (block, rest)) :
    block.Checked := by
  obtain ⟨heading, -, same⟩ := Option.map_eq_some_iff.mp read
  obtain ⟨rfl, -⟩ := Prod.mk.inj same
  exact checked_of_none rfl

/-- Markup is checked: it defines nothing. -/
theorem readHtml?_checked (read : readHtml? frame line lines = .ok (some (block, rest))) :
    block.Checked := by
  rw [readHtml?] at read
  split at read
  · cases read
  · rename_i found
    dsimp only at read
    split at read
    · cases read
    · cases read
      obtain ⟨form, -, same⟩ := Option.map_eq_some_iff.mp found
      obtain ⟨rfl, -⟩ := Prod.mk.inj same
      exact checked_of_none rfl

/-! ## Readers inside readers -/

/-- A reader whose blocks define labels for addresses that may be linked to. -/
def Reader.Checked (inside : Reader) : Prop :=
  ∀ frame lines range, inside frame lines = .ok range → DefinesChecked range.blocks

/-- A tight block defines what the block defines. -/
theorem tighten_definitions (block : Block Text) :
    (tighten block).definitions = block.definitions := by
  rw [tighten.eq_def]
  split
  · rename_i children
    rw [Block.definitions, Block.definitions]
    induction children with
    | nil => rfl
    | cons child children ih =>
      rw [List.map_cons, Block.definitionsAll, Block.definitionsAll, ih]
      congr 1
      cases child <;> rfl
  · rfl

/-- Tight blocks define what the blocks define. -/
theorem definesChecked_tighten (checked : DefinesChecked blocks) :
    DefinesChecked (blocks.map tighten) := by
  induction blocks with
  | nil => exact checked
  | cons block blocks ih =>
    obtain ⟨here, behind⟩ := definesChecked_cons.mp checked
    rw [List.map_cons, definesChecked_cons, Block.Checked, tighten_definitions]
    exact ⟨here, ih behind⟩

section Inside

variable {inside : Reader} (checked : inside.Checked)

include checked

/-- A container is checked if what is inside it is. -/
theorem readContainer_checked {count : Nat} {info : Text}
    (read : readContainer inside frame count info lines = .ok (block, rest)) :
    block.Checked := by
  obtain ⟨body, range, -, ran, rfl⟩ := readContainer_inversion read
  exact checked _ _ _ ran

/-- A quote is checked if what is inside it is. -/
theorem readQuote_checked (read : readQuote inside frame line lines = .ok (block, rest)) :
    block.Checked := by
  obtain ⟨range, ran, rfl, -⟩ := readQuote_inversion read
  exact checked _ _ _ ran

/-- An item is checked if what is inside it is. -/
theorem readItem_checked {width : Nat} {range : Range}
    (read : readItem inside frame width line lines = .ok range) :
    DefinesChecked range.blocks := by
  obtain rfl | ran := readItem_inversion read
  · exact definesChecked_nil
  · exact checked _ _ _ ran

/-- The items of a list are checked if what is inside them is. -/
theorem readItems_checked {fuel : Nat} {apart : Bool} {mark : ListMark} {range : Range}
    (read : readItems inside frame fuel apart mark line lines = .ok range) :
    DefinesChecked range.blocks := by
  induction fuel generalizing apart mark line lines range with
  | zero =>
    cases read
    exact definesChecked_nil
  | succ fuel ih =>
    obtain ⟨item, ran, next⟩ := readItems_inversion read
    have first : (Block.item item.blocks).Checked := readItem_checked checked ran
    obtain ⟨same, -⟩ | ⟨_, _, _, items, -, more, same, -⟩ := next
    · rw [same]
      exact definesChecked_cons.mpr ⟨first, definesChecked_nil⟩
    · rw [same]
      exact definesChecked_cons.mpr ⟨first, ih more⟩

/-- A list is checked if what is inside its items is. -/
theorem readList_checked {mark : ListMark}
    (read : readList inside frame mark line lines = .ok (block, rest)) :
    block.Checked := by
  obtain ⟨range, ran, same, -⟩ := readList_inversion read
  have items := readItems_checked checked ran
  have shown : DefinesChecked (shownItems range) := by
    rw [shownItems]
    split
    · exact definesChecked_tighten items
    · exact items
  obtain rfl | ⟨start, rfl⟩ := same
  · exact shown
  · exact shown

/-- Whichever reader reads a block, it is checked. -/
theorem readBlock_checked {insideItem : Reader} (itemChecked : insideItem.Checked)
    (read : readBlock inside insideItem frame line lines = .ok (block, rest)) :
    block.Checked := by
  cases readBlock_inversion read with
  | table found => exact table?_checked found
  | code found => exact indentedCode?_checked found
  | container count info _ ran => exact readContainer_checked checked ran
  | fence found => exact fencedCode?_checked found
  | quote _ ran => exact readQuote_checked checked ran
  | rule found => exact rule?_checked found
  | list mark _ ran => exact readList_checked itemChecked ran
  | definition found => exact definition?_checked found
  | html found => exact readHtml?_checked found
  | heading found => exact plainHeading?_checked found
  | underlined found => exact underlinedHeading?_checked found
  | paragraph same =>
    cases same
    exact checked_of_none rfl

/-- A range of blocks is checked. -/
theorem readRange_checked {insideItem : Reader} (itemChecked : insideItem.Checked) {fuel : Nat}
    {gap tight : Bool} {range : Range}
    (read : readRange inside insideItem frame fuel gap tight lines = .ok range) :
    DefinesChecked range.blocks := by
  induction fuel generalizing gap tight lines range with
  | zero =>
    cases read
    exact definesChecked_nil
  | succ fuel ih =>
    obtain ⟨none, -⟩ | ⟨_, _, _, _, _, _, _, _, -, ran, -, more, same, -⟩ :=
      readRange_inversion read
    · rw [none]
      exact definesChecked_nil
    · rw [same]
      exact definesChecked_cons.mpr ⟨readBlock_checked checked itemChecked ran, ih more⟩

end Inside

/-- Passing over all lines defines nothing. -/
theorem passOver_checked : passOver.Checked := by
  intro frame lines range read
  rw [passOver] at read
  split at read
  · cases read
    exact definesChecked_nil
  · cases read
    exact definesChecked_nil

/-- With any room for nesting, labels are defined for addresses that may be linked to. -/
theorem readBlocks_checked (room : Nat) : (readBlocks room).Checked := by
  refine readBlocks_induction passOver_checked ?_ room
  intro inside insideItem checked itemChecked frame lines range read
  exact readRange_checked checked itemChecked read

/-! ## Texts -/

/-- The blocks of a text define checked addresses only. -/
theorem blocksOf_checked {text : Text} (read : blocksOf text = .ok blocks) :
    DefinesChecked blocks := by
  rw [blocksOf] at read
  cases ran : readBlocks blockLimit {} (lines text) with
  | error cause =>
    rw [ran] at read
    cases read
  | ok range =>
    rw [ran] at read
    cases read
    exact readBlocks_checked _ _ _ _ ran

/-- If the labels that are known in front of a text stand for addresses that may be linked to, the
labels known behind it do, and its running texts lead to such addresses. -/
theorem read_checked {known : References} (checked : known.Checked) {text : Text}
    {document : Document} (read : Markdown.read known text = .ok document) :
    document.references.Checked ∧
      ∀ content ∈ Block.contentsAll document.blocks, AllChecked content := by
  rw [Markdown.read] at read
  cases ran : blocksOf text with
  | error cause =>
    rw [ran] at read
    cases read
  | ok blocks =>
    rw [ran] at read
    cases read
    have references := checked.append (blocksOf_checked ran)
    exact ⟨references, Block.contentsAll_mapAll (readInline_checked references) blocks⟩

end Loremark.Markdown
