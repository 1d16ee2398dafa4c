import Loremark.Proofs.Embed.Extraction

/-!
# Extracting a rewritten text

A rewritten text has nothing left to extract (`extract_rewritten`). Embeds with the number zero stay
in it, and the second scan finds them at the same places. Everywhere else no embed can begin: what
is written in front of a label holds no letter of a token, so it would have been written in the text
as well, and a label that ends at two braces behind a token also ends at two braces in the text, at
the latest at those of the embed that the token stands for (`Rewrites.closes`).
-/

set_option autoImplicit false

namespace Loremark.Embed

/-! ## Reading what is written -/

/-- The name of a kind in front of a colon is read as that kind. -/
theorem kind?_name (kind : Kind) (rest : Text) :
    kind? (kind.name ++ ':' :: rest) = some (kind, rest) := by
  cases kind <;> rfl

/-- Where an embed closes right away, it has no label. -/
theorem labelled?_closing (rest : Text) : labelled? (closing ++ rest) = some (none, rest) := rfl

/-- A label without closing braces is read up to the end of its embed. -/
theorem labelled?_label {words : Text} (nonempty : words ≠ []) (free : '\x7d' ∉ words)
    (rest : Text) : labelled? (':' :: (words ++ (closing ++ rest))) = some (some words, rest) := by
  have open_ : ∀ c ∈ words, (c != '\x7d') = true := by
    intro c mem
    rw [bne_iff_ne]
    exact fun same => free (same ▸ mem)
  have taken : (words ++ (closing ++ rest)).takeWhile (· != '\x7d') = words := by
    rw [List.takeWhile_append_of_pos open_]
    simp [closing]
  have left : (words ++ (closing ++ rest)).dropWhile (· != '\x7d') = closing ++ rest := by
    rw [List.dropWhile_append_of_pos open_]
    simp [closing]
  rw [labelled?, taken, left, Text.after?_append]
  split
  · exact absurd rfl nonempty
  · rfl

/-- What follows the digits of an embed, in front of `rest`. -/
def Written.tail (w : Written) (rest : Text) : Text :=
  w.label.elim [] (':' :: ·) ++ (closing ++ rest)

/-- An embed is written as its opening, its kind, its digits and its tail. -/
theorem Written.toText_append (w : Written) (rest : Text) :
    w.toText ++ rest = opening ++ (w.kind.name ++ ':' :: (w.digits ++ w.tail rest)) := by
  rw [toText, tail]
  cases w.label <;> simp

/-- The tail of a written embed is read as its label. -/
theorem labelled?_tail {w : Written} (wellFormed : w.WellFormed) (rest : Text) :
    labelled? (w.tail rest) = some (w.label, rest) := by
  rw [Written.tail]
  cases same : w.label with
  | none => exact labelled?_closing rest
  | some words =>
    obtain ⟨nonempty, free⟩ := wellFormed.label words same
    exact labelled?_label nonempty free rest

/-- The digits of an embed end where they end. -/
theorem Written.tail_eq_cons (w : Written) (rest : Text) :
    ∃ c behind, w.tail rest = c :: behind ∧ Text.isDigit c = false := by
  rw [tail]
  cases w.label with
  | none => exact ⟨'\x7d', _, rfl, rfl⟩
  | some words => exact ⟨':', _, rfl, rfl⟩

/-- An embed that is written at the beginning of a text is read there. -/
theorem match?_toText {w : Written} (wellFormed : w.WellFormed) (rest : Text) :
    match? (w.toText ++ rest) = some (w, rest) := by
  obtain ⟨c, behind, tail, stop⟩ := w.tail_eq_cons rest
  have taken : (w.digits ++ w.tail rest).takeWhile Text.isDigit = w.digits := by
    rw [List.takeWhile_append_of_pos wellFormed.digits, tail]
    simp [stop]
  have left : (w.digits ++ w.tail rest).dropWhile Text.isDigit = w.tail rest := by
    rw [List.dropWhile_append_of_pos wellFormed.digits, tail]
    simp [stop]
  rw [w.toText_append, match?, Text.after?_append, Option.bind_eq_bind, Option.bind_some,
    kind?_name]
  simp only [Option.bind_eq_bind, Option.bind_some, taken, left, labelled?_tail wellFormed]
  split
  · rename_i empty
    exact absurd empty wellFormed.digits_ne
  · rfl

/-- No embed begins with anything but a brace. -/
theorem match?_eq_none_of_ne {c : Char} (other : c ≠ '\x7b') (text : Text) :
    match? (c :: text) = none := by
  have absent : Text.after? opening (c :: text) = none := by
    rw [Text.after?_eq_none_iff]
    exact fun begins => other (List.cons_prefix_cons.mp begins).1.symm
  rw [match?, absent]
  rfl

/-- No closing brace stands in the name of a kind. -/
theorem brace_not_mem_name (kind : Kind) : '\x7d' ∉ kind.name := by
  cases kind <;> decide

/-- The letter that tokens begin with stands in the name of no kind. -/
theorem capital_not_mem_name (kind : Kind) : 'S' ∉ kind.name := by
  cases kind <;> decide

/-- The first closing brace of an embed is that of its end. -/
theorem Written.WellFormed.toText_eq {w : Written} (wellFormed : w.WellFormed) :
    ∃ inside, w.toText = inside ++ closing ∧ '\x7d' ∉ inside := by
  refine ⟨opening ++ (w.kind.name ++ ':' :: (w.digits ++ w.label.elim [] (':' :: ·))), ?_, ?_⟩
  · have whole := w.toText_append []
    rw [List.append_nil, tail, List.append_nil] at whole
    rw [whole]
    simp
  · have digits : '\x7d' ∉ w.digits := fun mem => by cases wellFormed.digits _ mem
    have label : '\x7d' ∉ w.label.elim [] (':' :: ·) := by
      cases same : w.label with
      | none => exact List.not_mem_nil
      | some words => simpa using (wellFormed.label words same).2
    simp [opening, brace_not_mem_name, digits, label]

/-! ## Following a text through its rewriting -/

/-- What a text is rewritten to, seen character by character: a character is kept, or a token takes
the place of an embed. -/
inductive Rewrites : (text rewritten : Text) → Prop
  | done : Rewrites [] []
  | keep {text rewritten : Text} (c : Char) (behind : Rewrites text rewritten) :
      Rewrites (c :: text) (c :: rewritten)
  | cut {text rewritten token : Text} (w : Written) (wellFormed : w.WellFormed)
      (isToken : IsToken token) (behind : Rewrites text rewritten) :
      Rewrites (w.toText ++ text) (token ++ rewritten)

namespace Rewrites

variable {text rewritten : Text}

/-- Words may be put in front of a text and of what it is rewritten to. -/
theorem literal (behind : Rewrites text rewritten) (words : Text) :
    Rewrites (words ++ text) (words ++ rewritten) := by
  induction words with
  | nil => exact behind
  | cons c words ih => exact .keep c ih

/-- What stands in front of the first token of a rewritten text stands in the text. -/
theorem split {front rest : Text} (rewrites : Rewrites text (front ++ rest))
    (free : 'S' ∉ front) : ∃ behind, text = front ++ behind ∧ Rewrites behind rest := by
  induction front generalizing text with
  | nil => exact ⟨text, rfl, rewrites⟩
  | cons c front ih =>
    generalize whole : c :: front ++ rest = rewritten at rewrites
    cases rewrites with
    | done => cases whole
    | keep d behind =>
      obtain ⟨rfl, rfl⟩ := List.cons.inj whole
      obtain ⟨rest, rfl, later⟩ := ih behind (List.not_mem_of_not_mem_cons free)
      exact ⟨rest, rfl, later⟩
    | cut w wellFormed isToken behind =>
      obtain ⟨tail, rfl, -⟩ := isToken.head
      have first : c = 'S' := (List.cons.inj whole).1
      exact absurd (first ▸ List.mem_cons_self) free

/-- A label that ends at two braces in a rewritten text does so in the text, and is not empty there
either. -/
theorem closes {label behind : Text} (rewrites : Rewrites text (label ++ (closing ++ behind)))
    (free : '\x7d' ∉ label) : ∃ written rest, text = written ++ (closing ++ rest) ∧
      '\x7d' ∉ written ∧ (label ≠ [] → written ≠ []) := by
  generalize whole : label ++ (closing ++ behind) = rewritten at rewrites
  induction rewrites generalizing label with
  | done => simp [closing] at whole
  | keep c inner ih =>
    cases label with
    | nil =>
      have kept := inner.keep c
      rw [← whole, List.nil_append] at kept
      obtain ⟨rest, same, -⟩ := kept.split (by decide)
      exact ⟨[], rest, same, List.not_mem_nil, fun nonempty => absurd rfl nonempty⟩
    | cons d label =>
      obtain ⟨rfl, rfl⟩ := List.cons.inj whole
      obtain ⟨written, rest, rfl, open_, -⟩ := ih (List.not_mem_of_not_mem_cons free) rfl
      refine ⟨d :: written, rest, rfl, ?_, fun _ => List.cons_ne_nil _ _⟩
      exact List.not_mem_cons_of_ne_of_not_mem (fun same => free (same ▸ List.mem_cons_self)) open_
  | @cut text rewritten token w wellFormed isToken inner ih =>
    -- The braces of the embed that has been cut out come first.
    obtain ⟨inside, source, open_⟩ := wellFormed.toText_eq
    refine ⟨inside, text, by rw [source, List.append_assoc], open_, ?_⟩
    rintro - rfl
    obtain ⟨tail, opens⟩ := w.toText_eq_cons
    rw [source] at opens
    cases opens

/-- Where no embed begins, none begins when the text behind has been rewritten. -/
theorem match?_eq_none {c : Char} (rewrites : Rewrites text rewritten)
    (plain : match? (c :: text) = none) : match? (c :: rewritten) = none := by
  cases found : match? (c :: rewritten) with
  | none => rfl
  | some result =>
    exfalso
    obtain ⟨w, rest⟩ := result
    obtain ⟨same, wellFormed⟩ := match?_eq_some found
    -- What is written in front of the label holds no letter of a token.
    let front := opening ++ (w.kind.name ++ ':' :: w.digits)
    have free : 'S' ∉ front := by
      have digits : 'S' ∉ w.digits := fun mem => by cases wellFormed.digits _ mem
      simp [front, opening, capital_not_mem_name, digits]
    have written (v : Written) (kind : v.kind = w.kind) (digits : v.digits = w.digits)
        (behind : Text) : v.toText ++ behind = front ++ v.tail behind := by
      rw [v.toText_append, kind, digits]
      simp [front]
    have whole := rewrites.keep c
    rw [same, written w rfl rfl] at whole
    obtain ⟨behind, text_eq, later⟩ := whole.split free
    rw [Written.tail] at later
    cases label : w.label with
    | none =>
      rw [label, Option.elim_none, List.nil_append] at later
      obtain ⟨after, rfl, -⟩ := later.split (by decide)
      have here := match?_toText wellFormed after
      rw [written w rfl rfl, Written.tail, label, Option.elim_none, List.nil_append, ← text_eq,
        plain] at here
      cases here
    | some words =>
      obtain ⟨nonempty, open_⟩ := wellFormed.label words label
      rw [label, Option.elim_some] at later
      have colon : Rewrites behind ([':'] ++ (words ++ (closing ++ rest))) := later
      obtain ⟨labelled, rfl, inner⟩ := colon.split (by decide)
      obtain ⟨inside, after, rfl, closed, filled⟩ := inner.closes open_
      let v : Written := { w with label := some inside }
      have vWellFormed : v.WellFormed :=
        ⟨wellFormed.digits_ne, wellFormed.digits, fun words same =>
          Option.some.inj same ▸ ⟨filled nonempty, closed⟩⟩
      have here := match?_toText vWellFormed after
      rw [written v rfl rfl, Written.tail, Option.elim_some, List.cons_append,
        ← List.singleton_append, ← text_eq, plain] at here
      cases here

end Rewrites

/-- A scan rewrites a text character by character. -/
theorem Scanned.rewrites {start text rewritten : Text} {index : Nat} {embeds : List Descriptor}
    (scanned : Scanned start index text rewritten embeds)
    (tokens : ∀ i, IsToken (tokenOf start i)) : Rewrites text rewritten := by
  induction scanned with
  | done index => exact .done
  | keep c plain behind ih => exact .keep c ih
  | zero w found number behind ih => exact ih.literal w.toText
  | @cut index text rewritten embeds w n found number behind ih =>
    exact .cut w (match?_eq_some found).2 (tokens index) ih

/-! ## The second scan -/

/-- The characters that are skipped do not matter. -/
theorem scan_skip (start : Text) (index skip : Nat) (text : Text) :
    scan start index skip text = scan start index 0 (text.drop skip) := by
  induction text generalizing skip with
  | nil => cases skip <;> rfl
  | cons c text ih =>
    cases skip with
    | zero => rfl
    | succ skip =>
      rw [scan, List.drop_succ_cons]
      exact ih skip

/-- Where no embed begins, a character is kept. -/
theorem scan_plain {start : Text} {index : Nat} {c : Char} {text : Text} {p : Parsed}
    (plain : match? (c :: text) = none) (ok : scan start index 0 text = .ok p) :
    scan start index 0 (c :: text) = .ok (p.push c) := by
  rw [scan, plain]
  dsimp only
  rw [ok]
  rfl

/-- Behind an embed, the scan goes on with the text that follows it. -/
theorem scan_found {start : Text} {index : Nat} {w : Written} {text : Text}
    (found : match? (w.toText ++ text) = some (w, text)) {n : Nat}
    (number : Text.readDigits w.digits = .ok n) :
    scan start index 0 (w.toText ++ text) =
      if n = 0 then do
        let rest ← scan start index 0 text
        return { rest with rewritten := w.toText ++ rest.rewritten }
      else do
        let rest ← scan start (index + 1) 0 text
        return ⟨tokenOf start index ++ rest.rewritten,
          w.descriptor start index n :: rest.embeds⟩ := by
  obtain ⟨tail, source⟩ := w.toText_eq_cons
  have skipped (index : Nat) : scan start index (w.toText.length - 1) (tail ++ text) =
      scan start index 0 text := by
    rw [scan_skip, source, List.length_cons, Nat.add_sub_cancel, List.drop_left]
  have whole : w.toText ++ text = '\x7b' :: (tail ++ text) := by rw [source, List.cons_append]
  rw [whole] at found ⊢
  rw [scan, found]
  dsimp only
  rw [number, skipped, skipped]
  cases n <;> rfl

/-- An embed with the number zero is kept. -/
theorem scan_zero {start : Text} {index : Nat} {w : Written} {text : Text} {p : Parsed}
    (found : match? (w.toText ++ text) = some (w, text))
    (number : Text.readDigits w.digits = .ok 0) (ok : scan start index 0 text = .ok p) :
    scan start index 0 (w.toText ++ text) =
      .ok { p with rewritten := w.toText ++ p.rewritten } := by
  rw [scan_found found number, if_pos rfl, ok]
  rfl

/-- A token takes the place of an embed with another number. -/
theorem scan_cut {start : Text} {index : Nat} {w : Written} {text : Text} {p : Parsed} {n : Nat}
    (found : match? (w.toText ++ text) = some (w, text)) (positive : n ≠ 0)
    (number : Text.readDigits w.digits = .ok n) (ok : scan start (index + 1) 0 text = .ok p) :
    scan start index 0 (w.toText ++ text) =
      .ok ⟨tokenOf start index ++ p.rewritten, w.descriptor start index n :: p.embeds⟩ := by
  rw [scan_found found number, if_neg positive, ok]
  rfl

/-- Characters that begin no embed are kept. -/
theorem scan_literal {start : Text} {index : Nat} {literal text rewritten : Text}
    (free : '\x7b' ∉ literal) (ok : scan start index 0 text = .ok ⟨rewritten, []⟩) :
    scan start index 0 (literal ++ text) = .ok ⟨literal ++ rewritten, []⟩ := by
  induction literal with
  | nil => exact ok
  | cons c literal ih =>
    have other : c ≠ '\x7b' := fun same => free (same ▸ List.mem_cons_self)
    exact scan_plain (match?_eq_none_of_ne other _) (ih (List.not_mem_of_not_mem_cons free))

/-- A second scan of what a scan gives cuts nothing out. -/
theorem Scanned.rescan {start text rewritten : Text} {index : Nat} {embeds : List Descriptor}
    (scanned : Scanned start index text rewritten embeds)
    (tokens : ∀ i, IsToken (tokenOf start i)) (other : Text) (number : Nat) :
    scan other number 0 rewritten = .ok ⟨rewritten, []⟩ := by
  induction scanned with
  | done index => rfl
  | keep c plain behind ih =>
    exact scan_plain ((behind.rewrites tokens).match?_eq_none plain) ih
  | @zero index text rewritten embeds w found zero behind ih =>
    have again := match?_toText (match?_eq_some found).2 rewritten
    exact scan_zero again zero ih
  | @cut index text rewritten embeds w n found positive behind ih =>
    exact scan_literal ((tokens index).not_mem rfl) ih

/-- A text that has been rewritten is left as it is: nothing is extracted from it any more. -/
theorem extract_rewritten {text : Text} {p : Parsed} (ok : extract text = .ok p) :
    extract p.rewritten = .ok ⟨p.rewritten, []⟩ := by
  have extracted := extracted_of_extract ok
  have tokens (i : Nat) : IsToken (tokenOf (freshPrefix text) i) := by
    obtain ⟨salt, same⟩ := extracted.salted
    rw [same]
    exact isToken_tokenOf salt i
  rw [extract]
  split
  · exact extracted.scanned.rescan tokens _ 0
  · rfl

/-- A text with an embed with the number zero whose label swallows the opening of another one, of an
embed whose label does so, and of opening braces right in front of an embed. -/
def swallowing : Text :=
  (Written.mk .arc ['0'] (some ("a".toList ++ (Written.mk .quote ['7'] none).toText.take 9))).toText ++
    (Written.mk .guide ['2'] (some (opening ++ "arc:5".toList))).toText ++
    opening ++ (Written.mk .volume ['3'] none).toText ++ closing

/-- A label that swallows the opening of another embed is rewritten once and for all. -/
theorem extract_swallowing :
    ∃ p, extract swallowing = .ok p ∧ p.embeds.length = 2 ∧
      extract p.rewritten = .ok ⟨p.rewritten, []⟩ := by
  have ok : ∃ p, extract swallowing = .ok p ∧ p.embeds.length = 2 := by
    refine ⟨⟨(Written.mk .arc ['0'] (some ("a".toList ++
          (Written.mk .quote ['7'] none).toText.take 9))).toText ++
        "SPOILERDOWNEMBEDQ0E".toList ++ opening ++ "SPOILERDOWNEMBEDQ1E".toList ++ closing,
      [⟨0, .guide, 2, some (opening ++ "arc:5".toList), "SPOILERDOWNEMBEDQ0E".toList,
          (Written.mk .guide ['2'] (some (opening ++ "arc:5".toList))).toText⟩,
        ⟨1, .volume, 3, none, "SPOILERDOWNEMBEDQ1E".toList,
          (Written.mk .volume ['3'] none).toText⟩]⟩, ?_, rfl⟩
    decide +kernel
  obtain ⟨p, ok, two⟩ := ok
  exact ⟨p, ok, two, extract_rewritten ok⟩

end Loremark.Embed
