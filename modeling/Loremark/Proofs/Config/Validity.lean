import Loremark.Config.Environment
import Loremark.Config.File
import Loremark.Proofs.Results
import Loremark.Proofs.Text.Numerals

/-!
# Valid configurations

Three counts and two choices of a configuration are checked where they are read. They are listed
with their sections, names, defaults and checks (`checkedSettings`), so that a configuration is
valid if each of them passes its own check (`Valid`).

A file either gives a configuration whose checked settings are what the file states, or it is
refused because it writes no sections, because the connection cannot be read, or because something
that it states for a checked setting does not pass (`ofFile_eq_ok_iff`, `exists_ofValue_iff`).
Variables of the environment replace entries one by one, and the only one that can be refused is
the reader's progress (`withEnvironment_eq_ok_iff`, `withEnvironment_eq_error_iff`).
-/

set_option autoImplicit false

namespace Loremark.Config

variable {sections entries : List (Value × Value)}

/-! ## Checked settings -/

/-- A count: an integer that is not negative. A flag is no count. -/
def IsCount (value : Value) : Prop :=
  ∃ n : Int, 0 ≤ n ∧ value = .int n

/-- A text that is one of some words. -/
def IsWord (words : List String) (value : Value) : Prop :=
  ∃ word ∈ words, value = .text word.toList

/-- What a section states for a setting, which is the default where it says nothing. -/
def statedIn (name : String) (default : Value) (entries : List (Value × Value)) : Value :=
  (Value.get? name.toList entries).getD default

/-- A setting of a section that is checked where it is read. -/
structure Setting where
  sectionName : String
  name : String
  default : Value
  IsValid : Value → Prop
  /-- The value that a configuration has for it. -/
  value : Config → Value

/-- What the sections of a configuration state for a setting. -/
def Setting.stated (s : Setting) (sections : List (Value × Value)) : Except Fault Value :=
  (sectionOf s.sectionName sections).map (statedIn s.name s.default)

/-- The settings that are checked, in the order in which they are. -/
def checkedSettings : List Setting := [
  ⟨"spoilers", "user_progress", .int 0, IsCount, fun config => .int config.spoilers.progress⟩,
  ⟨"spoilers", "chapter_tolerance", .int 0, IsCount,
    fun config => .int config.spoilers.tolerance⟩,
  ⟨"spoilers", "hidden_style", .text "blur".toList, IsWord ["blur", "hide"],
    fun config => .text config.spoilers.hiddenStyle.name⟩,
  ⟨"spoilers", "unthresholded", .text "reveal".toList, IsWord ["reveal", "hide"],
    fun config => .text config.spoilers.unthresholded.name⟩,
  ⟨"preview", "description_limit", .int 160, IsCount,
    fun config => .int config.previews.descriptionLimit⟩]

/-- A configuration whose checked settings pass their checks. -/
def Valid (config : Config) : Prop :=
  ∀ s ∈ checkedSettings, s.IsValid (s.value config)

/-- Counts are the integers that are not negative. -/
theorem isCount_iff {value : Value} : IsCount value ↔ ∃ n : Nat, value = .int n := by
  constructor
  · rintro ⟨n, notNegative, rfl⟩
    exact ⟨n.toNat, by rw [Int.toNat_of_nonneg notNegative]⟩
  · rintro ⟨n, rfl⟩
    exact ⟨n, Int.natCast_nonneg n, rfl⟩

/-- Natural numbers are counts. -/
theorem isCount_natCast (n : Nat) : IsCount (.int n) :=
  isCount_iff.mpr ⟨n, rfl⟩

/-- Every style of hiding is written as one of its two words. -/
theorem HiddenStyle.isWord_name (style : HiddenStyle) :
    IsWord ["blur", "hide"] (.text style.name) := by
  cases style <;> simp [IsWord, name]

/-- Every policy for regions without a threshold is written as one of its two words. -/
theorem Unthresholded.isWord_name (policy : Unthresholded) :
    IsWord ["reveal", "hide"] (.text policy.name) := by
  cases policy <;> simp [IsWord, name]

/-- Configurations cannot hold anything that does not pass. -/
theorem valid (config : Config) : Valid config := by
  simp only [Valid, checkedSettings, List.forall_mem_cons]
  exact ⟨isCount_natCast _, isCount_natCast _, HiddenStyle.isWord_name _,
    Unthresholded.isWord_name _, isCount_natCast _, List.forall_mem_nil _⟩

/-- The default configuration has the defaults of the settings. -/
theorem value_default : ∀ s ∈ checkedSettings, s.value {} = s.default := by
  simp only [checkedSettings, List.forall_mem_cons]
  exact ⟨rfl, rfl, rfl, rfl, rfl, List.forall_mem_nil _⟩

/-- Every default passes its own check. -/
theorem isValid_default : ∀ s ∈ checkedSettings, s.IsValid s.default := by
  intro s checked
  rw [← value_default s checked]
  exact valid {} s checked

/-! ## Counts and choices -/

/-- A value that is refused gives nothing, however the refusal is worded. -/
theorem refuse_ne_ok {α : Type} {value : Value} {fault : Fault} {a : α} :
    refuse value fault ≠ .ok a := by
  rw [refuse]
  split <;> simp

/-- A count is read exactly as it is stated. -/
theorem count_eq_ok_iff {name : String} {default n : Nat} :
    count name default entries = .ok n ↔ statedIn name (.int default) entries = .int n := by
  rw [count, statedIn]
  cases Value.get? name.toList entries with
  | none => rw [Option.getD_none, Except.ok.injEq, Value.int.injEq, Int.natCast_inj]
  | some value =>
    rw [Option.getD_some]
    split
    · next same => cases same
    · next m same =>
      cases same
      rw [Except.ok.injEq, Value.int.injEq, Int.ofNat_eq_natCast, Int.natCast_inj]
    · next other same =>
      cases same
      constructor
      · intro read
        exact absurd read refuse_ne_ok
      · rintro rfl
        exact (other n rfl).elim

/-- Texts, with halves of pairs in them or without, are the only values whose type has the name of
theirs. -/
theorem eq_text_of_typeName {value : Value} (same : value.typeName = "str".toList) :
    (∃ a, value = .text a) ∨ ∃ codes, value = .halved codes := by
  cases value with
  | text a => exact .inl ⟨a, rfl⟩
  | halved codes => exact .inr ⟨codes, rfl⟩
  | _ => exact absurd (String.toList_injective same) (by decide)

/-- A text is the same key as no value but itself. -/
theorem sameKey_text_iff {a : Text} {value : Value} :
    Value.sameKey (.text a) value = true ↔ value = .text a := by
  rw [Value.sameKey.eq_def]
  split
  · next first b isText =>
    cases isText
    rw [beq_iff_eq, Value.text.injEq, eq_comm]
  · next isText => cases isText
  · next codes _ => exact iff_of_false Bool.false_ne_true (by rintro ⟨⟩)
  · next isText => cases isText
  · next isText => cases isText
  · next isText => cases isText
  · next isOther _ notHalved _ _ _ =>
    constructor
    · intro same
      split at same
      · next number _ => cases number
      · rw [Bool.and_eq_true, beq_iff_eq, beq_iff_eq] at same
        obtain ⟨b, rfl⟩ | ⟨codes, rfl⟩ := eq_text_of_typeName same.2.symm
        · exact (isOther a b rfl rfl).elim
        · exact (notHalved a codes rfl rfl).elim
      · cases same
    · intro isText
      exact (isOther a a rfl isText).elim

/-- A choice between all the values of a type is read exactly as its word is stated. -/
theorem choice_eq_ok_iff {α : Type} {word : α → Text} (injective : Function.Injective word)
    {name : String} {default chosen : α} {all : List α} (complete : ∀ a, a ∈ all) :
    choice name default (all.map fun a => (word a, a)) entries = .ok chosen ↔
      statedIn name (.text (word default)) entries = .text (word chosen) := by
  rw [choice, statedIn]
  cases Value.get? name.toList entries with
  | none => rw [Option.getD_none, Except.ok.injEq, Value.text.injEq, injective.eq_iff]
  | some value =>
    dsimp only [Option.getD_some]
    rw [List.find?_map]
    cases found : List.find? _ all with
    | none =>
      constructor
      · intro read
        exact absurd read refuse_ne_ok
      · intro isWord
        have differs := List.find?_eq_none.mp found chosen (complete chosen)
        exact absurd (sameKey_text_iff.mpr isWord) differs
    | some a =>
      have same := List.find?_some found
      have isWord : value = .text (word a) := sameKey_text_iff.mp same
      rw [isWord, Option.map_some, Except.ok.injEq, Value.text.injEq, injective.eq_iff]

/-- The words of the styles of hiding tell the styles apart. -/
theorem HiddenStyle.name_injective : Function.Injective HiddenStyle.name := by
  intro style other same
  cases style <;> cases other <;> first | rfl | exact absurd same (by decide)

/-- The words of the policies tell the policies apart. -/
theorem Unthresholded.name_injective : Function.Injective Unthresholded.name := by
  intro policy other same
  cases policy <;> cases other <;> first | rfl | exact absurd same (by decide)

/-- The words of the styles of hiding are exactly the names of the styles. -/
theorem HiddenStyle.isWord_iff {value : Value} :
    IsWord ["blur", "hide"] value ↔ ∃ style : HiddenStyle, value = .text style.name := by
  constructor
  · rintro ⟨word, isWord, rfl⟩
    simp only [List.mem_cons, List.not_mem_nil, or_false] at isWord
    rcases isWord with rfl | rfl
    · exact ⟨.blur, rfl⟩
    · exact ⟨.hide, rfl⟩
  · rintro ⟨style, rfl⟩
    exact style.isWord_name

/-- The words of the policies are exactly the names of the policies. -/
theorem Unthresholded.isWord_iff {value : Value} :
    IsWord ["reveal", "hide"] value ↔ ∃ policy : Unthresholded, value = .text policy.name := by
  constructor
  · rintro ⟨word, isWord, rfl⟩
    simp only [List.mem_cons, List.not_mem_nil, or_false] at isWord
    rcases isWord with rfl | rfl
    · exact ⟨.reveal, rfl⟩
    · exact ⟨.hide, rfl⟩
  · rintro ⟨policy, rfl⟩
    exact policy.isWord_name

/-! ## Sections -/

/-- The style of hiding is read exactly as it is stated. -/
theorem hiddenStyle_eq_ok_iff {style : HiddenStyle} :
    choice "hidden_style" .blur ([HiddenStyle.blur, .hide].map fun s => (s.name, s)) entries =
        .ok style ↔
      statedIn "hidden_style" (.text "blur".toList) entries = .text style.name :=
  choice_eq_ok_iff HiddenStyle.name_injective (by rintro (_ | _) <;> simp)

/-- The policy for regions without a threshold is read exactly as it is stated. -/
theorem unthresholded_eq_ok_iff {policy : Unthresholded} :
    choice "unthresholded" .reveal ([Unthresholded.reveal, .hide].map fun s => (s.name, s))
        entries = .ok policy ↔
      statedIn "unthresholded" (.text "reveal".toList) entries = .text policy.name :=
  choice_eq_ok_iff Unthresholded.name_injective (by rintro (_ | _) <;> simp)

/-- The preferences of a section are what it states. -/
theorem Spoilers.ofEntries_eq_ok_iff {spoilers : Spoilers} :
    Spoilers.ofEntries entries = .ok spoilers ↔
      statedIn "user_progress" (.int 0) entries = .int spoilers.progress ∧
      statedIn "chapter_tolerance" (.int 0) entries = .int spoilers.tolerance ∧
      statedIn "hidden_style" (.text "blur".toList) entries = .text spoilers.hiddenStyle.name ∧
      statedIn "unthresholded" (.text "reveal".toList) entries =
        .text spoilers.unthresholded.name ∧
      flag "show_all_spoilers" false entries = spoilers.showAll := by
  simp only [Spoilers.ofEntries, bind_eq_ok_iff]
  constructor
  · rintro ⟨progress, progressRead, tolerance, toleranceRead, style, styleRead, policy,
      policyRead, made⟩
    cases made
    exact ⟨count_eq_ok_iff.mp progressRead, count_eq_ok_iff.mp toleranceRead,
      hiddenStyle_eq_ok_iff.mp styleRead, unthresholded_eq_ok_iff.mp policyRead, rfl⟩
  · rintro ⟨progress, tolerance, style, policy, showAll⟩
    refine ⟨_, count_eq_ok_iff.mpr progress, _, count_eq_ok_iff.mpr tolerance, _,
      hiddenStyle_eq_ok_iff.mpr style, _, unthresholded_eq_ok_iff.mpr policy, ?_⟩
    rw [showAll]
    rfl

/-- The settings of spoilers are read exactly if both numbers are counts and both words are known.
-/
theorem Spoilers.exists_ofEntries_iff :
    (∃ spoilers, Spoilers.ofEntries entries = .ok spoilers) ↔
      IsCount (statedIn "user_progress" (.int 0) entries) ∧
      IsCount (statedIn "chapter_tolerance" (.int 0) entries) ∧
      IsWord ["blur", "hide"] (statedIn "hidden_style" (.text "blur".toList) entries) ∧
      IsWord ["reveal", "hide"] (statedIn "unthresholded" (.text "reveal".toList) entries) := by
  simp only [Spoilers.ofEntries_eq_ok_iff, isCount_iff, HiddenStyle.isWord_iff,
    Unthresholded.isWord_iff]
  constructor
  · rintro ⟨spoilers, progress, tolerance, style, policy, -⟩
    exact ⟨⟨_, progress⟩, ⟨_, tolerance⟩, ⟨_, style⟩, ⟨_, policy⟩⟩
  · rintro ⟨⟨progress, isProgress⟩, ⟨tolerance, isTolerance⟩, ⟨style, isStyle⟩, policy, isPolicy⟩
    exact ⟨⟨progress, flag "show_all_spoilers" false entries, tolerance, style, policy⟩,
      isProgress, isTolerance, isStyle, isPolicy, rfl⟩

/-- The presentation of a section is what it states. -/
theorem Previews.ofEntries_eq_ok_iff {previews : Previews} :
    Previews.ofEntries entries = .ok previews ↔
      statedIn "description_limit" (.int 160) entries = .int previews.descriptionLimit ∧
      flag "show_images" true entries = previews.showImages ∧
      flag "compact" false entries = previews.compact ∧
      flag "standalone_cards" false entries = previews.standaloneCards := by
  simp only [Previews.ofEntries, bind_eq_ok_iff]
  constructor
  · rintro ⟨limit, limitRead, made⟩
    cases made
    exact ⟨count_eq_ok_iff.mp limitRead, rfl, rfl, rfl⟩
  · rintro ⟨limit, images, compact, cards⟩
    refine ⟨_, count_eq_ok_iff.mpr limit, ?_⟩
    rw [images, compact, cards]
    rfl

/-- The settings of previews are read exactly if the limit of descriptions is a count. -/
theorem Previews.exists_ofEntries_iff :
    (∃ previews, Previews.ofEntries entries = .ok previews) ↔
      IsCount (statedIn "description_limit" (.int 160) entries) := by
  simp only [Previews.ofEntries_eq_ok_iff, isCount_iff]
  constructor
  · rintro ⟨previews, limit, -⟩
    exact ⟨_, limit⟩
  · rintro ⟨limit, isLimit⟩
    exact ⟨⟨limit, flag "show_images" true entries, flag "compact" false entries,
      flag "standalone_cards" false entries⟩, isLimit, rfl, rfl, rfl⟩

/-- The address of a section can be read exactly if no integer in it is too long to be shown. -/
theorem exists_baseUrlOf_iff :
    (∃ url, baseUrlOf entries = .ok url) ↔
      (statedIn "base_url" (.text defaultUrl) entries).overlong? = none := by
  rw [baseUrlOf, statedIn]
  cases Value.get? "base_url".toList entries with
  | none => simp [Value.overlong?]
  | some value =>
    rw [Option.getD_some]
    dsimp only
    rw [Value.write]
    cases value.overlong? <;> simp [Except.mapError]

/-- The connection of a section can be read exactly if its number of seconds and its address
can. -/
theorem Api.exists_ofEntries_iff :
    (∃ api, Api.ofEntries entries = .ok api) ↔
      (∃ timeout, timeoutOf entries = .ok timeout) ∧
        (statedIn "base_url" (.text defaultUrl) entries).overlong? = none := by
  rw [← exists_baseUrlOf_iff]
  simp only [Api.ofEntries, bind_eq_ok_iff]
  constructor
  · rintro ⟨api, timeout, read, url, shown, -⟩
    exact ⟨⟨timeout, read⟩, url, shown⟩
  · rintro ⟨⟨timeout, read⟩, url, shown⟩
    exact ⟨_, timeout, read, url, shown, rfl⟩

/-! ## Whole configurations -/

/-- A configuration is read section by section. -/
theorem ofValue_eq_ok_iff {config : Config} :
    ofValue (.dict sections) = .ok config ↔
      (∃ entries, sectionOf "api" sections = .ok entries ∧
        Api.ofEntries entries = .ok config.api) ∧
      (∃ entries, sectionOf "spoilers" sections = .ok entries ∧
        Spoilers.ofEntries entries = .ok config.spoilers) ∧
      (∃ entries, sectionOf "preview" sections = .ok entries ∧
        Previews.ofEntries entries = .ok config.previews) ∧
      flag "enable_embeds" true sections = config.embedsEnabled := by
  simp only [ofValue, bind_eq_ok_iff]
  constructor
  · rintro ⟨apiEntries, apiSection, api, apiRead, spoilerEntries, spoilerSection, spoilers,
      spoilersRead, previewEntries, previewSection, previews, previewsRead, made⟩
    cases made
    exact ⟨⟨apiEntries, apiSection, apiRead⟩, ⟨spoilerEntries, spoilerSection, spoilersRead⟩,
      ⟨previewEntries, previewSection, previewsRead⟩, rfl⟩
  · rintro ⟨⟨apiEntries, apiSection, apiRead⟩, ⟨spoilerEntries, spoilerSection, spoilersRead⟩,
      ⟨previewEntries, previewSection, previewsRead⟩, embeds⟩
    refine ⟨apiEntries, apiSection, _, apiRead, spoilerEntries, spoilerSection, _, spoilersRead,
      previewEntries, previewSection, _, previewsRead, ?_⟩
    rw [embeds]
    rfl

/-- A setting is stated as a value exactly if its section can be read and holds the value, or leaves
it to the default. -/
theorem Setting.stated_eq_ok_iff {s : Setting} {value : Value} :
    s.stated sections = .ok value ↔ ∃ entries, sectionOf s.sectionName sections = .ok entries ∧
      statedIn s.name s.default entries = value := by
  rw [stated]
  cases sectionOf s.sectionName sections with
  | error fault => simp [Except.map]
  | ok entries => simp [Except.map]

/-- The checked settings of a configuration are what its sections state. -/
theorem stated_of_ofValue {config : Config} (read : ofValue (.dict sections) = .ok config) :
    ∀ s ∈ checkedSettings, s.stated sections = .ok (s.value config) := by
  obtain ⟨-, ⟨spoilerEntries, spoilerSection, spoilersRead⟩, ⟨previewEntries, previewSection,
    previewsRead⟩, -⟩ := ofValue_eq_ok_iff.mp read
  obtain ⟨progress, tolerance, style, policy, -⟩ := Spoilers.ofEntries_eq_ok_iff.mp spoilersRead
  obtain ⟨limit, -⟩ := Previews.ofEntries_eq_ok_iff.mp previewsRead
  simp only [checkedSettings, List.forall_mem_cons, Setting.stated_eq_ok_iff]
  exact ⟨⟨spoilerEntries, spoilerSection, progress⟩, ⟨spoilerEntries, spoilerSection, tolerance⟩,
    ⟨spoilerEntries, spoilerSection, style⟩, ⟨spoilerEntries, spoilerSection, policy⟩,
    ⟨previewEntries, previewSection, limit⟩, List.forall_mem_nil _⟩

/-- Sections that a configuration can be read from: the connection can be read, and what they state
for the checked settings passes. -/
structure Acceptable (sections : List (Value × Value)) : Prop where
  connection : ∃ entries, sectionOf "api" sections = .ok entries ∧
    (∃ timeout, timeoutOf entries = .ok timeout) ∧
    (statedIn "base_url" (.text defaultUrl) entries).overlong? = none
  checked : ∀ s ∈ checkedSettings, ∃ value, s.stated sections = .ok value ∧ s.IsValid value

/-- A configuration is read exactly if all its settings are acceptable. -/
theorem exists_ofValue_iff :
    (∃ config, ofValue (.dict sections) = .ok config) ↔ Acceptable sections := by
  constructor
  · rintro ⟨config, read⟩
    obtain ⟨⟨entries, apiSection, apiRead⟩, -⟩ := ofValue_eq_ok_iff.mp read
    exact ⟨⟨entries, apiSection, Api.exists_ofEntries_iff.mp ⟨_, apiRead⟩⟩, fun s checked =>
      ⟨_, stated_of_ofValue read s checked, valid config s checked⟩⟩
  · rintro ⟨⟨apiEntries, apiSection, connected⟩, checked⟩
    obtain ⟨api, apiRead⟩ := Api.exists_ofEntries_iff.mpr connected
    simp only [checkedSettings, List.forall_mem_cons, Setting.stated_eq_ok_iff,
      exists_exists_and_eq_and] at checked
    obtain ⟨⟨spoilerEntries, spoilerSection, progress⟩, ⟨_, again, tolerance⟩,
      ⟨_, againStyle, style⟩, ⟨_, againPolicy, policy⟩, ⟨previewEntries, previewSection, limit⟩,
      -⟩ := checked
    cases spoilerSection.symm.trans again
    cases spoilerSection.symm.trans againStyle
    cases spoilerSection.symm.trans againPolicy
    obtain ⟨spoilers, spoilersRead⟩ :=
      Spoilers.exists_ofEntries_iff.mpr ⟨progress, tolerance, style, policy⟩
    obtain ⟨previews, previewsRead⟩ := Previews.exists_ofEntries_iff.mpr limit
    exact ⟨⟨api, spoilers, previews, flag "enable_embeds" true sections⟩, ofValue_eq_ok_iff.mpr
      ⟨⟨apiEntries, apiSection, apiRead⟩, ⟨spoilerEntries, spoilerSection, spoilersRead⟩,
        ⟨previewEntries, previewSection, previewsRead⟩, rfl⟩⟩

/-! ## Files -/

/-- The sections at the top level of a document: those of a dictionary, and none where there is no
document or an empty one. -/
def topSections? : Option Value → Option (List (Value × Value))
  | none | some .null => some []
  | some (.dict sections) | some (.ordered sections) => some sections
  | some _ => none

/-- A file is there, is a text, and is well-formed with these sections at its top level. -/
def Writes (file : Option Bytes) (sections : List (Value × Value)) : Prop :=
  ∃ bytes text document, file = some bytes ∧ textOfFile bytes = .ok text ∧
    Yaml.read? text = .ok document ∧ topSections? document = some sections

/-- A well-formed text is taken by the sections at its top level. -/
theorem ofYaml_of_read {text : Text} {document : Option Value}
    (isDocument : Yaml.read? text = .ok document) :
    ofYaml text =
      match topSections? document with
      | none => .error .notMapping
      | some sections => (ofValue (.dict sections)).mapError .fault := by
  rw [ofYaml, isDocument]
  rcases document with _ | document
  · rfl
  · cases document <;> rfl

/-- A file is read exactly if its document is a mapping of sections that make a configuration. -/
theorem ofYaml_eq_ok_iff {text : Text} {config : Config} :
    ofYaml text = .ok config ↔ ∃ document sections, Yaml.read? text = .ok document ∧
      topSections? document = some sections ∧ ofValue (.dict sections) = .ok config := by
  constructor
  · intro read
    cases isDocument : Yaml.read? text with
    | error cause =>
      rw [ofYaml, isDocument] at read
      cases cause <;> cases read
    | ok document =>
      rw [ofYaml_of_read isDocument] at read
      split at read
      · cases read
      · next sections top => exact ⟨document, sections, rfl, top, mapError_eq_ok_iff.mp read⟩
  · rintro ⟨document, sections, isDocument, top, read⟩
    rw [ofYaml_of_read isDocument, top]
    exact mapError_eq_ok_iff.mpr read

/-- A file gives a configuration exactly if the sections that it writes do. -/
theorem ofFile_eq_ok_iff {file : Option Bytes} {config : Config} :
    ofFile file = .ok config ↔
      ∃ sections, Writes file sections ∧ ofValue (.dict sections) = .ok config := by
  constructor
  · intro read
    cases file with
    | none => cases read
    | some bytes =>
      obtain ⟨text, isText, read⟩ := bind_eq_ok_iff.mp read
      obtain ⟨document, sections, isDocument, top, read⟩ := ofYaml_eq_ok_iff.mp read
      exact ⟨sections, ⟨bytes, text, document, rfl, isText, isDocument, top⟩, read⟩
  · rintro ⟨sections, ⟨bytes, text, document, rfl, isText, isDocument, top⟩, read⟩
    exact bind_eq_ok_iff.mpr ⟨text, isText,
      ofYaml_eq_ok_iff.mpr ⟨document, sections, isDocument, top, read⟩⟩

/-! ## Environment -/

/-- A text is the progress of a reader exactly if it writes it as a numeral. -/
theorem readProgress_eq_ok_iff {text : Text} {progress : Nat} :
    readProgress text = .ok progress ↔ Text.Numeral text progress := by
  rw [← Text.readInt_eq_ok_iff, readProgress]
  rcases Text.readInt text with cause | (n | n)
  · simp
  · rw [Except.ok.injEq, Except.ok.injEq, Int.ofNat_eq_natCast, Int.natCast_inj]
  · simp

/-- A text is refused as progress if it is no numeral, or if the numeral is negative. -/
theorem readProgress_eq_error_iff {text : Text} {fault : ProgressError} :
    readProgress text = .error fault ↔
      (∃ cause, Text.readInt text = .error cause ∧ fault = .numeral cause) ∨
      ∃ n < 0, Text.Numeral text n ∧ fault = .negative n := by
  simp only [← Text.readInt_eq_ok_iff]
  rw [readProgress]
  rcases Text.readInt text with cause | (n | n)
  · simp [eq_comm]
  · have notNegative : ¬ (n : Int) < 0 := Int.not_lt.mpr (Int.natCast_nonneg n)
    simp [notNegative]
  · simp [eq_comm, Int.negSucc_lt_zero]

/-- Reading an integer fails exactly where no numeral stands. -/
theorem exists_readInt_error_iff {text : Text} :
    (∃ cause, Text.readInt text = .error cause) ↔ ¬ ∃ n, Text.Numeral text n := by
  simp only [← Text.readInt_eq_ok_iff]
  cases Text.readInt text <;> simp

/-- What the variables of an environment make of a configuration: each of them that is set stands
in place of the entry that it overrides, and nothing else changes. -/
structure Overridden (config : Config) (env : Environment) (changed : Config) : Prop where
  rest : changed = { config with
    api := { config.api with baseUrl := changed.api.baseUrl, token := changed.api.token }
    spoilers := { config.spoilers with progress := changed.spoilers.progress } }
  baseUrl : changed.api.baseUrl = if env.apiUrl = [] then config.api.baseUrl else env.apiUrl
  token : changed.api.token = if env.apiToken = [] then config.api.token else .text env.apiToken
  progress : if env.progress = [] then changed.spoilers.progress = config.spoilers.progress
    else Text.Numeral env.progress changed.spoilers.progress

section Environment

variable {config changed : Config} {env : Environment}

/-- The progress that a configuration is left with. -/
def progressWith (config : Config) (env : Environment) : Except ProgressError Nat :=
  if env.progress = [] then .ok config.spoilers.progress else readProgress env.progress

/-- A configuration with another progress, and with the two variables that are never refused. -/
def replaced (config : Config) (env : Environment) (progress : Nat) : Config :=
  { config with
    api := { config.api with
      baseUrl := if env.apiUrl = [] then config.api.baseUrl else env.apiUrl
      token := if env.apiToken = [] then config.api.token else .text env.apiToken }
    spoilers := { config.spoilers with progress } }

/-- A variable of the environment counts unless it is empty. -/
theorem override_eq {α : Type} (setting : Text) (value : Text → α) (otherwise : α) :
    override setting value otherwise = if setting = [] then otherwise else value setting := by
  rw [override]
  simp only [List.isEmpty_iff]

/-- Only the progress decides whether the variables are refused. -/
theorem withEnvironment_eq :
    config.withEnvironment env = (progressWith config env).map (replaced config env) := by
  simp only [withEnvironment, progressWith, override_eq, List.isEmpty_iff]
  split
  · rfl
  · cases readProgress env.progress <;> rfl

/-- The progress is that of the configuration, unless the environment states a numeral for another
one. -/
theorem progressWith_eq_ok_iff {progress : Nat} :
    progressWith config env = .ok progress ↔
      if env.progress = [] then progress = config.spoilers.progress
        else Text.Numeral env.progress progress := by
  rw [progressWith]
  split
  · rw [Except.ok.injEq, eq_comm]
  · exact readProgress_eq_ok_iff

/-- The environment is refused for its progress exactly if that is stated and cannot be read. -/
theorem progressWith_eq_error_iff {fault : ProgressError} :
    progressWith config env = .error fault ↔
      env.progress ≠ [] ∧ readProgress env.progress = .error fault := by
  rw [progressWith]
  split
  · next unset => simp [unset]
  · next isSet => exact (and_iff_right isSet).symm

/-- The environment overrides a configuration exactly as its variables say. -/
theorem withEnvironment_eq_ok_iff :
    config.withEnvironment env = .ok changed ↔ Overridden config env changed := by
  have mapped : config.withEnvironment env = .ok changed ↔
      ∃ progress, progressWith config env = .ok progress ∧
        replaced config env progress = changed := by
    rw [withEnvironment_eq]
    cases progressWith config env <;> simp [Except.map]
  simp only [mapped, progressWith_eq_ok_iff]
  constructor
  · rintro ⟨progress, isProgress, rfl⟩
    exact ⟨rfl, rfl, rfl, isProgress⟩
  · rintro ⟨rest, baseUrl, token, progress⟩
    refine ⟨changed.spoilers.progress, progress, ?_⟩
    rw [replaced, ← baseUrl, ← token]
    exact rest.symm

/-- The variables are refused if the progress is set and is no numeral, or a negative one. -/
theorem exists_withEnvironment_error_iff :
    (∃ fault, config.withEnvironment env = .error fault) ↔
      env.progress ≠ [] ∧ ((¬ ∃ n, Text.Numeral env.progress n) ∨
        ∃ n < 0, Text.Numeral env.progress n) := by
  have mapped (fault : ProgressError) : config.withEnvironment env = .error fault ↔
      progressWith config env = .error fault := by
    rw [withEnvironment_eq]
    cases progressWith config env <;> simp [Except.map]
  simp only [mapped, progressWith_eq_error_iff, exists_and_left, readProgress_eq_error_iff,
    ← exists_readInt_error_iff]
  apply and_congr_right
  intro isSet
  constructor
  · rintro ⟨fault, ⟨cause, fails, -⟩ | ⟨n, negative, numeral, -⟩⟩
    · exact .inl ⟨cause, fails⟩
    · exact .inr ⟨n, negative, numeral⟩
  · rintro (⟨cause, fails⟩ | ⟨n, negative, numeral⟩)
    · exact ⟨_, .inl ⟨cause, fails, rfl⟩⟩
    · exact ⟨_, .inr ⟨n, negative, numeral, rfl⟩⟩

end Environment

/-! ## To the gate -/

/-- Only valid configurations reach the gate. A file is refused, or it gives a valid configuration
with the checked settings that it states; it is refused exactly if it writes no sections that are
acceptable. The gate is told the preferences of a configuration unchanged. The variables of an
environment are refused exactly if the progress is set and is no numeral that is not negative;
otherwise they give a valid configuration that differs in the entries whose variables are set. -/
theorem only_valid_reaches_gate (file : Option Bytes) (config : Config) (env : Environment) :
    (match ofFile file with
      | .error _ => ¬ ∃ sections, Writes file sections ∧ Acceptable sections
      | .ok loaded => Valid loaded ∧ ∃ sections, Writes file sections ∧ Acceptable sections ∧
          ∀ s ∈ checkedSettings, s.stated sections = .ok (s.value loaded)) ∧
    (config.spoilers.settings.showAll = config.spoilers.showAll ∧
      config.spoilers.settings.tolerance = config.spoilers.tolerance ∧
      config.spoilers.settings.hiddenStyle = config.spoilers.hiddenStyle.name ∧
      config.spoilers.settings.unthresholded = config.spoilers.unthresholded.name) ∧
    ((∃ fault, config.withEnvironment env = .error fault) ↔
      env.progress ≠ [] ∧ ((¬ ∃ n, Text.Numeral env.progress n) ∨
        ∃ n < 0, Text.Numeral env.progress n)) ∧
    ∀ changed, config.withEnvironment env = .ok changed ↔
      Valid changed ∧ Overridden config env changed := by
  refine ⟨?_, ⟨rfl, rfl, rfl, rfl⟩, exists_withEnvironment_error_iff, ?_⟩
  · cases loading : ofFile file with
    | error fault =>
      rintro ⟨sections, writes, acceptable⟩
      obtain ⟨loaded, read⟩ := exists_ofValue_iff.mpr acceptable
      rw [ofFile_eq_ok_iff.mpr ⟨sections, writes, read⟩] at loading
      cases loading
    | ok loaded =>
      obtain ⟨sections, writes, read⟩ := ofFile_eq_ok_iff.mp loading
      exact ⟨valid loaded, sections, writes, exists_ofValue_iff.mp ⟨loaded, read⟩,
        stated_of_ofValue read⟩
  · intro changed
    rw [withEnvironment_eq_ok_iff]
    exact (and_iff_right (valid changed)).symm

end Loremark.Config
