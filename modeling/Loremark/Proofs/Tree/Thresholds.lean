import Loremark.Proofs.Spoiler.Mentions
import Loremark.Proofs.Tree.Regions

/-!
# The thresholds of gated containers

The chapter of a gated container is looked for in its plain text, behind the opening line if there is
one. A mention in the title, in a text or in the code of a line is therefore found, and the first
one in the title wins over everything below it; a mention that stands in plain output alone is not
found, since plain output has no plain text (`render_thresholds`).
-/

set_option autoImplicit false

namespace Loremark.Tree

open Markdown Node Spoiler

/-! ## Detection -/

section Detection

variable {text : Text} {region : Region}

/-- A gated container has a threshold exactly if its text mentions a chapter. -/
theorem threshold_ne_none_iff (chapter : chapterOf (firstMention? text) = .ok region.threshold) :
    region.threshold ≠ none ↔ Mentions text := by
  cases found : firstMention? text with
  | none =>
    rw [found] at chapter
    have none : region.threshold = none := (Except.ok.inj chapter).symm
    exact iff_of_false (fun some => some none) (firstMention?_eq_none_iff.mp found)
  | some digits =>
    rw [found, chapterOf] at chapter
    obtain ⟨n, -, same⟩ := of_except_bind chapter
    have some : region.threshold = some (n : Int) := (Except.ok.inj same).symm
    refine iff_of_true ?_ (firstMention?_eq_some_iff.mp found).mentions
    rw [some]
    exact Option.some_ne_none _

/-- The threshold is the number of the first mention. -/
theorem threshold_eq_some (chapter : chapterOf (firstMention? text) = .ok region.threshold)
    {digits : Text} (first : FirstMention text digits) :
    ∃ n : Nat, Text.readDigits digits = .ok n ∧ region.threshold = some (n : Int) := by
  rw [firstMention?_eq_some_iff.mpr first, chapterOf] at chapter
  obtain ⟨n, number, same⟩ := of_except_bind chapter
  exact ⟨n, number, (Except.ok.inj same).symm⟩

end Detection

/-! ## Opening lines -/

/-- The title of a container stands at the end of its opening line, behind a text without the letter
that mentions begin with. -/
theorem exists_front_fencedTitle (info : Text) : ∃ front,
    Text.trim info = front ++ fencedTitle info ∧ ∀ c ∈ front, Text.toSmall c ≠ 'c' := by
  unfold fencedTitle
  cases named : Text.after? containerName (Text.trim info) with
  | none => exact ⟨[], rfl, List.forall_mem_nil _⟩
  | some rest =>
    have split : Text.trim info = containerName ++ rest := Text.after?_eq_some_iff.mp named
    have blanks : rest.takeWhile Text.isBlank ++ Text.trimStart rest = rest :=
      List.takeWhile_append_dropWhile
    have title : Text.trim rest = Text.trimStart rest := by
      refine Text.trimEnd_of_suffix (Text.trimEnd_trim info) ?_
      rw [split]
      exact (List.dropWhile_suffix _).trans (List.suffix_append _ _)
    refine ⟨containerName ++ rest.takeWhile Text.isBlank, ?_, ?_⟩
    · rw [Option.map_some, Option.getD_some, title, List.append_assoc, blanks, split]
    · have name : containerName.all (fun c => Text.toSmall c != 'c') = true := by decide
      refine List.forall_mem_append.mpr ⟨by simpa using name, ?_⟩
      intro c mem small
      have blank := List.mem_takeWhile_imp mem
      rw [Embed.toSmall_of_isBlank blank] at small
      rw [small] at blank
      cases blank

/-! ## What a container mentions -/

/-- A chapter is mentioned in a title, or in a text or the code of a line below it. -/
def Named (title : Text) (children : List Node) : Prop :=
  Mentions title ∨ (∃ value, .text value ∈ preorderAll children ∧ Mentions value) ∨
    ∃ content below, .inline (.code content) below ∈ preorderAll children ∧ Mentions content

/-- A chapter is mentioned in plain output. -/
def NamedInOutput (children : List Node) : Prop :=
  ∃ html, .raw html ∈ preorderAll children ∧ Mentions html

/-- The text of a gated container: its plain text, behind the opening line if it has one. -/
inductive Heading (children : List Node) : (title inner : Text) → Prop
  | fenced (info : Text) :
      Heading children (fencedTitle info) (Text.trim info ++ '\n' :: flatten children)
  | division : Heading children [] (flatten children)

section Heading

variable {children : List Node} {title inner digits : Text}

/-- Nothing is mentioned in the empty text. -/
theorem not_mentions_nil : ¬ Mentions [] := by
  rintro ⟨digits, mention, isMention, inside⟩
  obtain ⟨c, tail, rfl, -⟩ := isMention.head
  exact absurd (List.infix_nil.mp inside) (List.cons_ne_nil _ _)

/-- The first mention in a title is the first one at all. -/
theorem Heading.firstMention (heading : Heading children title inner)
    (first : FirstMention title digits) : FirstMention inner digits := by
  cases heading with
  | fenced info =>
    obtain ⟨front, split, other⟩ := exists_front_fencedTitle info
    rw [split, List.append_assoc]
    exact (first.append_line _).append_front other
  | division => exact absurd first.mentions not_mentions_nil

/-- The plain text of a container is a part of its heading text. -/
theorem Heading.flatten_infix (heading : Heading children title inner) :
    flatten children <:+: inner := by
  cases heading with
  | fenced info => exact ⟨Text.trim info ++ ['\n'], [], by simp⟩
  | division => exact List.infix_refl _

/-- What is named in a title, a text or code is mentioned in the text of the container. -/
theorem Heading.mentions_of_named (heading : Heading children title inner)
    (hollow : Hollow children) (named : Named title children) : Mentions inner := by
  -- The plain text of a node below the container stands in the text of the container.
  have below {node : Node} (mem : node ∈ preorderAll children) : flattenNode node <:+: inner := by
    rw [preorderAll_eq_spokenAll children hollow] at mem
    exact (infix_flatten false children mem).trans heading.flatten_infix
  rcases named with inTitle | ⟨value, mem, mentions⟩ | ⟨content, others, mem, mentions⟩
  · obtain ⟨digits, first⟩ := mentions_iff.mp inTitle
    exact (heading.firstMention first).mentions
  · exact mentions.mono (below mem)
  · exact mentions.mono (below mem)

end Heading

/-- Where a gated region of a container comes from. -/
theorem Origin.container_inversion {source : Source} {outlines : List Outline} {region : Region}
    {content : List Node} (origin : Origin source outlines region content)
    (gated : region.form = .container) : ∃ className title children,
      content = [.block (.container className title) children] ∧ Hollow children ∧
        Heading children title region.inner ∧
          chapterOf (firstMention? region.inner) = .ok region.threshold := by
  cases origin with
  | quote among shown built =>
    cases built with
    | gated marker detected =>
      rw [Spoiler.detectQuote, marker] at detected
      obtain ⟨chapter, -, same⟩ := of_except_bind detected
      cases same
      cases gated
  | container among shown built =>
    cases built with
    | gated detected =>
      obtain ⟨-, inner, chapter⟩ := of_detectContainer detected
      rw [inner]
      exact ⟨_, _, _, rfl, shownAll_hollow shown, .fenced _, chapter⟩
  | division among shown built =>
    cases built with
    | gated detected =>
      obtain ⟨-, inner, chapter⟩ := of_detectContainer detected
      rw [inner]
      exact ⟨_, _, _, rfl, shownAll_hollow shown, .division, chapter⟩

/-- How a gated container with a title and children has got its threshold: it has one exactly if its
text mentions a chapter, which it does if one is named in the title, in a text or in code. The first
one named in the title is the threshold. What is named in plain output counts only if the text
mentions a chapter as well. -/
structure Judged (region : Region) (title : Text) (children : List Node) : Prop where
  heading : Heading children title region.inner
  mentioned : region.threshold ≠ none ↔ Mentions region.inner
  named : Named title children → region.threshold ≠ none
  first : ∀ digits, FirstMention title digits →
    ∃ n : Nat, Text.readDigits digits = .ok n ∧ region.threshold = some (n : Int)
  output : (Named title children ∨ NamedInOutput children → region.threshold ≠ none) ↔
    (NamedInOutput children → Mentions region.inner)

/-- Every gated container of a rendered tree has got its threshold that way. -/
theorem render_thresholds {style : Style} {embedsEnabled : Bool} {content : Text}
    {rendered : Rendered} {events : List Log.Event}
    (ok : render style embedsEnabled content = (.ok rendered, events)) {region : Region}
    {inside : List Node} (mem : .spoiler region inside ∈ preorderAll rendered.tree)
    (gated : region.form = .container) : ∃ className title children,
      inside = [.block (.container className title) children] ∧ Judged region title children := by
  obtain ⟨-, outlines, slots, -, shown⟩ := render_shown ok
  have origin : Origin _ _ region inside := shownAll_origin shown _ mem
  obtain ⟨className, title, children, rfl, hollow, heading, chapter⟩ :=
    origin.container_inversion gated
  have mentioned := threshold_ne_none_iff chapter
  have named (own : Named title children) : region.threshold ≠ none :=
    mentioned.mpr (heading.mentions_of_named hollow own)
  refine ⟨className, title, children, rfl, heading, mentioned, named, ?_, ?_⟩
  · exact fun digits first => threshold_eq_some chapter (heading.firstMention first)
  · constructor
    · exact fun all output => mentioned.mp (all (.inr output))
    · rintro found (own | output)
      · exact named own
      · exact mentioned.mpr (found output)

/-- A container with a chapter in its title and another one below it. -/
def chapterInTitle : Text := "::: spoiler Chapter 40 finale\n*chapter 7* wins\n:::".toList

/-- Whether a tree is one gated container with that chapter in its title. -/
def isTitled (rendered : Rendered) : Bool :=
  match rendered.tree with
  | [.spoiler region [.block (.container _ title) _]] =>
    region.form == .container && firstMention? title == some ['4', '0']
  | _ => false

/-- The chapter of the title is the threshold. -/
theorem render_thresholds_chapterInTitle :
    ∃ rendered events region className title children,
      render {} true chapterInTitle = (.ok rendered, events) ∧
        .spoiler region [.block (.container className title) children] ∈
          preorderAll rendered.tree ∧
        region.form = .container ∧ FirstMention title ['4', '0'] ∧
        Judged region title children ∧ region.threshold = some 40 := by
  have shows : (render {} true chapterInTitle).1.toOption.any isTitled = true := by
    decide +kernel
  obtain ⟨rendered, events, ok, titled⟩ := exists_of_any shows
  unfold isTitled at titled
  split at titled
  · rename_i region className title children same
    simp only [Bool.and_eq_true, beq_iff_eq] at titled
    obtain ⟨gated, mention⟩ := titled
    have first : FirstMention title ['4', '0'] := firstMention?_eq_some_iff.mp mention
    have mem : .spoiler region [.block (.container className title) children] ∈
        preorderAll rendered.tree := by
      rw [same]
      exact List.mem_cons_self
    obtain ⟨_, _, _, inside, judged⟩ := render_thresholds ok mem gated
    cases inside
    obtain ⟨n, number, threshold⟩ := judged.first _ first
    have forty : Text.readDigits ['4', '0'] = .ok 40 := by decide
    rw [forty] at number
    cases number
    exact ⟨rendered, events, region, className, title, children, ok, mem, gated, first, judged,
      threshold⟩
  · cases titled

/-- A container with a chapter in a block of code. -/
def chapterInCode : Text := "::: spoiler\n```\nChapter 5\n```\n:::".toList

/-- Whether a tree is a gated container without a threshold around output with a mention. -/
def missesChapter (rendered : Rendered) : Bool :=
  match rendered.tree with
  | [.spoiler region [.block (.container _ _) [.raw html]]] =>
    region.form == .container && region.threshold == none && firstMention? html == some ['5']
  | _ => false

/-- A chapter in code gives no threshold. -/
theorem chapterInCode_no_threshold : ∃ rendered events region className title children,
    render {} true chapterInCode = (.ok rendered, events) ∧
      .spoiler region [.block (.container className title) children] ∈
        preorderAll rendered.tree ∧
      region.form = .container ∧ NamedInOutput children ∧ region.threshold = none := by
  have shows : (render {} true chapterInCode).1.toOption.any missesChapter = true := by
    decide +kernel
  obtain ⟨rendered, events, ok, misses⟩ := exists_of_any shows
  unfold missesChapter at misses
  split at misses
  · rename_i region className title html same
    simp only [Bool.and_eq_true, beq_iff_eq] at misses
    obtain ⟨⟨gated, threshold⟩, mention⟩ := misses
    refine ⟨rendered, events, region, className, title, [.raw html], ok, ?_, gated, ?_, threshold⟩
    · rw [same]
      exact List.mem_cons_self
    · exact ⟨html, List.mem_cons_self, (firstMention?_eq_some_iff.mp mention).mentions⟩
  · cases misses

end Loremark.Tree
