import FilterExpr.Pattern
import Mathlib.Data.List.Chain

/-!
# FilterExpr.Proofs.Pattern.Parts

A pattern kept as a list of parts, and the one list of parts that every pattern has.

In a separated list no text is empty and no two texts are neighbours. `parts_ofParts` says that a separated
list is told by its symbols, so a pattern has no other such list than its parts. What an assembly does to
the pattern can then be followed on the parts alone: each step keeps them separated
(`Step.separated_onParts`) and does there what it does to the symbols (`Step.ofParts_onParts`).
`assemble_canonical` says this of whole assemblies, with the symbols they leave.
-/

namespace FilterExpr

namespace Pattern

/-! ## Separated parts -/

/-- No text is empty, and of two neighbours one is a wildcard. -/
structure Separated (parts : List Part) : Prop where
  not_mem_empty : .text "" ∉ parts
  isChain : parts.IsChain fun a b => a = .wildcard ∨ b = .wildcard

theorem separated_nil : Separated [] := ⟨List.not_mem_nil, .nil⟩

theorem separated_cons_iff {part : Part} {parts : List Part} :
    Separated (part :: parts) ↔
      part ≠ .text "" ∧ (∀ next ∈ parts.head?, part = .wildcard ∨ next = .wildcard) ∧
        Separated parts := by
  constructor
  · rintro ⟨hmem, hchain⟩
    rw [List.mem_cons, not_or] at hmem
    rw [List.isChain_cons] at hchain
    exact ⟨Ne.symm hmem.1, hchain.1, hmem.2, hchain.2⟩
  · rintro ⟨hne, hhead, hmem, hchain⟩
    refine ⟨?_, List.isChain_cons.mpr ⟨hhead, hchain⟩⟩
    rw [List.mem_cons, not_or]
    exact ⟨Ne.symm hne, hmem⟩

theorem separated_concat_iff {parts : List Part} {part : Part} :
    Separated (parts ++ [part]) ↔
      Separated parts ∧ part ≠ .text "" ∧
        ∀ last ∈ parts.getLast?, last = .wildcard ∨ part = .wildcard := by
  constructor
  · rintro ⟨hmem, hchain⟩
    rw [List.mem_append, List.mem_singleton, not_or] at hmem
    rw [List.isChain_append] at hchain
    exact ⟨⟨hmem.1, hchain.1⟩, Ne.symm hmem.2, fun last hlast => hchain.2.2 last hlast part rfl⟩
  · rintro ⟨⟨hmem, hchain⟩, hne, hlast⟩
    refine ⟨?_, hchain.append (.singleton part) ?_⟩
    · rw [List.mem_append, List.mem_singleton, not_or]
      exact ⟨hmem, Ne.symm hne⟩
    · rintro last hmem _ ⟨⟩
      exact hlast last hmem

/-! ## Separated parts are told by their symbols -/

theorem group_text_append (chars : List Char) (symbols : List Symbol) :
    group (chars.map .char ++ symbols) = chars.foldr consPart (group symbols) := by
  induction chars with
  | nil => rfl
  | cons c chars ih => rw [List.map_cons, List.cons_append, group, ih, List.foldr_cons]

/-- Characters in front of a list that does not begin with a text become one. -/
theorem foldr_consPart {chars : List Char} {parts : List Part} (hne : chars ≠ [])
    (hparts : ∀ next ∈ parts.head?, next = .wildcard) :
    chars.foldr consPart parts = .text (String.ofList chars) :: parts := by
  induction chars with
  | nil => exact absurd rfl hne
  | cons c chars ih =>
    rw [List.foldr_cons]
    cases chars with
    | nil =>
      cases parts with
      | nil => rfl
      | cons next rest =>
        obtain rfl : next = .wildcard := hparts next rfl
        rfl
    | cons d chars =>
      rw [ih (List.cons_ne_nil d chars), consPart, String.singleton_eq_ofList,
        ← String.ofList_append, List.singleton_append]

theorem group_flatMap_symbols {parts : List Part} (h : Separated parts) :
    group (parts.flatMap Part.symbols) = parts := by
  induction parts with
  | nil => rfl
  | cons part parts ih =>
    obtain ⟨hne, hnext, hrest⟩ := separated_cons_iff.mp h
    rw [List.flatMap_cons]
    cases part with
    | wildcard => exact congrArg _ (ih hrest)
    | text chars =>
      have hchars : chars.toList ≠ [] := by simpa using hne
      have hwild : ∀ next ∈ parts.head?, next = .wildcard := by simpa using hnext
      rw [Part.symbols, group_text_append, ih hrest, foldr_consPart hchars hwild, String.ofList_toList]

/-- Separated parts are the parts of the pattern they make. -/
theorem parts_ofParts {parts : List Part} (h : Separated parts) : (ofParts parts).parts = parts :=
  group_flatMap_symbols h

theorem parts_injective {p q : Pattern} (h : p.parts = q.parts) : p = q := by
  rw [← ofParts_parts p, h, ofParts_parts]

/-! ## Growing a list of parts -/

/-- Text at the end goes on with a last text, or else is a part of its own. -/
def joinText (parts : List Part) (text : String) : List Part :=
  match parts.getLast? with
  | some (.text chars) => parts.dropLast ++ [.text (chars ++ text)]
  | _ => parts ++ [.text text]

/-- The empty text leaves no trace. -/
def addText (parts : List Part) (text : String) : List Part :=
  if text = "" then parts else joinText parts text

def addPart (parts : List Part) : Part → List Part
  | .text chars => addText parts chars
  | .wildcard => parts ++ [.wildcard]

theorem joinText_cases (parts : List Part) (text : String) :
    (∃ front chars, parts = front ++ [.text chars] ∧
      joinText parts text = front ++ [.text (chars ++ text)]) ∨
    ((∀ last ∈ parts.getLast?, last = .wildcard) ∧ joinText parts text = parts ++ [.text text]) := by
  fun_cases joinText parts text with
  | case1 chars hlast =>
    obtain ⟨front, rfl⟩ := List.getLast?_eq_some_iff.mp hlast
    exact .inl ⟨front, chars, rfl, by rw [List.dropLast_concat]⟩
  | case2 hlast =>
    refine .inr ⟨?_, rfl⟩
    intro last hmem
    cases last with
    | text chars => exact absurd hmem (hlast chars)
    | wildcard => rfl

theorem separated_joinText {parts : List Part} {text : String} (h : Separated parts)
    (htext : text ≠ "") : Separated (joinText parts text) := by
  rcases joinText_cases parts text with ⟨front, chars, rfl, heq⟩ | ⟨hlast, heq⟩
  · rw [heq]
    rw [separated_concat_iff] at h ⊢
    obtain ⟨hfront, _, hwild⟩ := h
    refine ⟨hfront, ?_, by simpa using hwild⟩
    simp [String.append_eq_empty_iff, htext]
  · rw [heq]
    exact separated_concat_iff.mpr ⟨h, by simpa using htext, fun last hmem => .inl (hlast last hmem)⟩

theorem separated_addText {parts : List Part} {text : String} (h : Separated parts) :
    Separated (addText parts text) := by
  rw [addText]
  split
  · exact h
  · rename_i htext
    exact separated_joinText h htext

theorem separated_addPart {parts : List Part} (h : Separated parts) (part : Part) :
    Separated (addPart parts part) := by
  cases part with
  | text chars => exact separated_addText h
  | wildcard => exact separated_concat_iff.mpr ⟨h, nofun, fun _ _ => .inr rfl⟩

theorem separated_foldl_addPart {start : List Part} (h : Separated start) (parts : List Part) :
    Separated (parts.foldl addPart start) := by
  induction parts generalizing start with
  | nil => exact h
  | cons part parts ih => exact ih (separated_addPart h part)

theorem ofParts_joinText (parts : List Part) (text : String) :
    ofParts (joinText parts text) = (ofParts parts).pushText text := by
  rcases joinText_cases parts text with ⟨front, chars, rfl, heq⟩ | ⟨_, heq⟩ <;> rw [heq] <;>
    simp [ofParts, pushText, Part.symbols]

theorem ofParts_addText (parts : List Part) (text : String) :
    ofParts (addText parts text) = (ofParts parts).pushText text := by
  rw [addText]
  split
  · rename_i htext
    simp [htext, pushText]
  · exact ofParts_joinText parts text

theorem ofParts_addPart (parts : List Part) (part : Part) :
    ofParts (addPart parts part) = ofParts (parts ++ [part]) := by
  cases part with
  | text chars =>
    rw [addPart, ofParts_addText]
    simp [ofParts, pushText, Part.symbols]
  | wildcard => rfl

theorem ofParts_append (first second : List Part) :
    ofParts (first ++ second) = ⟨(ofParts first).symbols ++ (ofParts second).symbols⟩ := by
  rw [ofParts, List.flatMap_append]
  rfl

theorem ofParts_foldl_addPart (start parts : List Part) :
    ofParts (parts.foldl addPart start) = ofParts (start ++ parts) := by
  induction parts generalizing start with
  | nil => rw [List.foldl_nil, List.append_nil]
  | cons part parts ih =>
    rw [List.foldl_cons, ih, ofParts_append, ofParts_addPart, ← ofParts_append, List.append_assoc,
      List.singleton_append]

/-! ## Assemblies -/

/-- A step in the assembly of a pattern. -/
inductive Step where
  | new
  | literal (text : String)
  | ofParts (parts : List Part)
  | push (c : Char)
  | pushText (text : String)
  | pushWildcard

namespace Step

/-- A step that begins a new pattern forgets the one before it. -/
def restarts : Step → Bool
  | .new | .literal _ | .ofParts _ => true
  | .push _ | .pushText _ | .pushWildcard => false

/-- What a step appends. -/
def symbols : Step → List Symbol
  | .new => []
  | .literal text | .pushText text => text.toList.map .char
  | .ofParts parts => parts.flatMap Part.symbols
  | .push c => [.char c]
  | .pushWildcard => [.wildcard]

def apply (p : Pattern) : Step → Pattern
  | .new => empty
  | .literal text => Pattern.literal text
  | .ofParts parts => Pattern.ofParts parts
  | .push c => p.push c
  | .pushText text => p.pushText text
  | .pushWildcard => p.pushWildcard

/-- The step on a pattern that is kept as a list of parts. -/
def onParts (parts : List Part) : Step → List Part
  | .new => []
  | .literal text => addText [] text
  | .ofParts given => given.foldl addPart []
  | .push c => joinText parts (String.singleton c)
  | .pushText text => addText parts text
  | .pushWildcard => parts ++ [.wildcard]

theorem symbols_apply (p : Pattern) (step : Step) :
    (step.apply p).symbols = (if step.restarts then [] else p.symbols) ++ step.symbols := by
  cases step <;> rfl

theorem separated_onParts {parts : List Part} (h : Separated parts) (step : Step) :
    Separated (step.onParts parts) := by
  cases step with
  | new => exact separated_nil
  | literal text => exact separated_addText separated_nil
  | ofParts given => exact separated_foldl_addPart separated_nil given
  | push c => exact separated_joinText h (by simp)
  | pushText text => exact separated_addText h
  | pushWildcard => exact separated_addPart h .wildcard

theorem ofParts_onParts (parts : List Part) (step : Step) :
    Pattern.ofParts (step.onParts parts) = step.apply (Pattern.ofParts parts) := by
  cases step with
  | new => rfl
  | literal text => rw [onParts, ofParts_addText]; rfl
  | ofParts given => rw [onParts, ofParts_foldl_addPart, List.nil_append]; rfl
  | push c =>
    rw [onParts, ofParts_joinText, Pattern.pushText, String.toList_singleton]
    rfl
  | pushText text => exact ofParts_addText parts text
  | pushWildcard => exact ofParts_append parts [.wildcard]

end Step

def assemble (steps : List Step) : Pattern := steps.foldl Step.apply empty

def assembleParts (steps : List Step) : List Part := steps.foldl Step.onParts []

/-- The steps from the last new pattern on, or all of them if none was begun. -/
def sinceRestart : List Step → List Step
  | [] => []
  | step :: steps => if steps.any Step.restarts then sinceRestart steps else step :: steps

def appended (steps : List Step) : List Symbol := (sinceRestart steps).flatMap Step.symbols

theorem sinceRestart_of_any_eq_false {steps : List Step} (h : steps.any Step.restarts = false) :
    sinceRestart steps = steps := by
  cases steps with
  | nil => rfl
  | cons step steps =>
    rw [List.any_cons, Bool.or_eq_false_iff] at h
    rw [sinceRestart, h.2, if_neg Bool.false_ne_true]

theorem symbols_foldl_apply (p : Pattern) (steps : List Step) :
    (steps.foldl Step.apply p).symbols =
      (if steps.any Step.restarts then [] else p.symbols) ++ appended steps := by
  induction steps generalizing p with
  | nil => simp [appended, sinceRestart]
  | cons step steps ih =>
    rw [List.foldl_cons, ih, List.any_cons, appended, appended, sinceRestart]
    cases hlater : steps.any Step.restarts with
    | true => simp
    | false =>
      -- no later restart: this step and those behind it are all that counts
      simp [sinceRestart_of_any_eq_false hlater, Step.symbols_apply]

theorem symbols_assemble (steps : List Step) : (assemble steps).symbols = appended steps := by
  rw [assemble, symbols_foldl_apply, empty, ite_self, List.nil_append]

theorem separated_assembleParts (steps : List Step) : Separated (assembleParts steps) :=
  List.foldlRecOn steps Step.onParts separated_nil fun _ h step _ => Step.separated_onParts h step

theorem ofParts_assembleParts (steps : List Step) : ofParts (assembleParts steps) = assemble steps :=
  (List.foldl_hom ofParts fun parts step => (Step.ofParts_onParts parts step).symm).symm

theorem parts_assemble (steps : List Step) : (assemble steps).parts = assembleParts steps := by
  rw [← ofParts_assembleParts, parts_ofParts (separated_assembleParts steps)]

theorem flatMap_symbols_assembleParts (steps : List Step) :
    (assembleParts steps).flatMap Part.symbols = appended steps := by
  rw [← symbols_assemble, ← ofParts_assembleParts, ofParts]

theorem assemble_eq_iff {steps others : List Step} :
    assemble steps = assemble others ↔ appended steps = appended others := by
  rw [← symbols_assemble, ← symbols_assemble, Pattern.mk.injEq]

theorem assembleParts_eq_iff {steps others : List Step} :
    assembleParts steps = assembleParts others ↔ appended steps = appended others := by
  rw [← assemble_eq_iff, ← parts_assemble, ← parts_assemble]
  exact ⟨parts_injective, congrArg parts⟩

theorem wildcard_mem_flatMap_symbols {parts : List Part} :
    Symbol.wildcard ∈ parts.flatMap Part.symbols ↔ .wildcard ∈ parts := by
  rw [List.mem_flatMap]
  constructor
  · rintro ⟨part, hpart, hmem⟩
    cases part with
    | text chars => simp [Part.symbols] at hmem
    | wildcard => exact hpart
  · intro hmem
    exact ⟨.wildcard, hmem, List.mem_singleton.mpr rfl⟩

/-- However a pattern is assembled, the parts kept along the way are separated, are those of the pattern and
hold what was appended since it was begun. So patterns and parts are equal exactly if the same was
appended, the parts make the pattern again, and they tell whether it is empty and has a wildcard. -/
theorem assemble_canonical (steps : List Step) :
    (assemble steps).parts = assembleParts steps ∧
    Separated (assembleParts steps) ∧
    (assembleParts steps).flatMap Part.symbols = appended steps ∧
    (∀ others,
      (assemble steps = assemble others ↔ appended steps = appended others) ∧
      (assembleParts steps = assembleParts others ↔ appended steps = appended others)) ∧
    ofParts (assemble steps).parts = assemble steps ∧
    assembleParts [.ofParts (assembleParts steps)] = assembleParts steps ∧
    ((assemble steps).isEmpty ↔ appended steps = []) ∧
    (assembleParts steps = [] ↔ appended steps = []) ∧
    ((assemble steps).hasWildcard ↔ .wildcard ∈ appended steps) ∧
    (.wildcard ∈ assembleParts steps ↔ .wildcard ∈ appended steps) := by
  refine ⟨parts_assemble steps, separated_assembleParts steps, flatMap_symbols_assembleParts steps,
    fun others => ⟨assemble_eq_iff, assembleParts_eq_iff⟩, ofParts_parts _, ?_, ?_, ?_, ?_, ?_⟩
  · rw [assembleParts_eq_iff, ← flatMap_symbols_assembleParts steps]
    exact List.append_nil _
  · rw [isEmpty, symbols_assemble, List.isEmpty_iff]
  · -- the empty assembly is the one with nothing appended
    exact (assembleParts_eq_iff : _ = assembleParts [] ↔ _)
  · rw [hasWildcard, symbols_assemble, List.contains_iff_mem]
  · rw [← flatMap_symbols_assembleParts, wildcard_mem_flatMap_symbols]

example : assembleParts [.literal "gone", .ofParts [.text "", .text "a"], .pushText "bc",
    .pushWildcard, .pushText "", .push 'd'] = [.text "abc", .wildcard, .text "d"] := by decide

end Pattern

end FilterExpr
