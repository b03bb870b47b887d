/-
  LanguageBlueprint/Vocabulary.lean
  =================================
  **Closed vocabularies.**  Much of a language blueprint is chosen from short
  lists of words: the data types, the two ways a language is executed, the
  backends, and so on.  Each list is an enumeration together with the one
  spelling of each member; a text names a member when it is that spelling, apart
  from blanks at its ends.

    * a member is found again under its spelling — `ofText?_word`;
    * a text names at most the member it spells  — `ofText?_eq_some_iff`.
-/
import LanguageBlueprint.Text.Blank

namespace LanguageBlueprint

open Text

/-- An enumeration whose members each have one spelling. -/
class Vocabulary (α : Type) where
  /-- What a member of the list is called in messages. -/
  kind : String
  /-- The members in their fixed order. -/
  all : List α
  /-- The spelling of a member. -/
  word : α → String
  mem_all : ∀ a, a ∈ all
  word_injective : ∀ a b, word a = word b → a = b
  trim_word : ∀ a, trim (word a) = word a
  word_ne_empty : ∀ a, word a ≠ ""

/-- A text that spells no member of a vocabulary. -/
structure UnknownWord where
  kind : String
  word : String
deriving DecidableEq, Repr

def UnknownWord.message (unknown : UnknownWord) : String :=
  "'" ++ unknown.word ++ "' is not a valid " ++ unknown.kind

namespace Vocabulary

variable {α : Type} [Vocabulary α]

/-- The member that a text spells. -/
def ofText? (text : String) : Option α :=
  (all (α := α)).find? (fun a => word a == trim text)

/-- The member that a text spells, or the word that names none. -/
def ofText (text : String) : Except UnknownWord α :=
  match ofText? text with
  | some a => .ok a
  | none => .error ⟨kind α, trim text⟩

/-- An optional choice: a blank text chooses nothing. -/
def ofOptionalText (text : String) : Except UnknownWord (Option α) :=
  if isBlank text then .ok none else (ofText text).map some

theorem ofText?_eq_some_iff {text : String} {a : α} :
    ofText? text = some a ↔ word a = trim text := by
  unfold ofText?
  constructor
  · intro h
    simpa using List.find?_some h
  · intro h
    cases hf : (all (α := α)).find? (fun b => word b == trim text) with
    | none =>
        have := List.find?_eq_none.mp hf a (mem_all a)
        simp [h] at this
    | some b =>
        have hb : word b = trim text := by simpa using List.find?_some hf
        rw [word_injective b a (hb.trans h.symm)]

theorem ofText?_word (a : α) : ofText? (word a) = some a :=
  ofText?_eq_some_iff.mpr (trim_word a).symm

theorem ofText_word (a : α) : ofText (word a) = .ok a := by
  simp [ofText, ofText?_word]

theorem isBlank_word (a : α) : isBlank (word a) = false := by
  cases h : isBlank (word a) with
  | false => rfl
  | true =>
      have := isBlank_iff_trim.mp h
      rw [trim_word] at this
      exact absurd this (word_ne_empty a)

theorem ofOptionalText_word (a : α) : ofOptionalText (word a) = .ok (some a) := by
  simp [ofOptionalText, isBlank_word, ofText_word, Except.map]

end Vocabulary

/-! ### The vocabularies of a blueprint -/

/-- The value types that a language may expose. -/
inductive DataType where
  | integer | float | string | boolean | array | object
deriving DecidableEq, Repr

instance : Vocabulary DataType where
  kind := "DataType"
  all := [.integer, .float, .string, .boolean, .array, .object]
  word
    | .integer => "integer"
    | .float => "float"
    | .string => "string"
    | .boolean => "boolean"
    | .array => "array"
    | .object => "object"
  mem_all a := by cases a <;> decide
  word_injective a b := by cases a <;> cases b <;> decide
  trim_word a := by cases a <;> decide
  word_ne_empty a := by cases a <;> decide

/-- How programs of a language are run. -/
inductive Execution where
  | interpreted | compiled
deriving DecidableEq, Repr

instance : Vocabulary Execution where
  kind := "LanguageType"
  all := [.interpreted, .compiled]
  word
    | .interpreted => "interpreted"
    | .compiled => "compiled"
  mem_all a := by cases a <;> decide
  word_injective a b := by cases a <;> cases b <;> decide
  trim_word a := by cases a <;> decide
  word_ne_empty a := by cases a <;> decide

/-- The languages that a compiled language can be lowered to. -/
inductive Backend where
  | python | javaScript | c
deriving DecidableEq, Repr

instance : Vocabulary Backend where
  kind := "TargetLanguage"
  all := [.python, .javaScript, .c]
  word
    | .python => "python"
    | .javaScript => "javascript"
    | .c => "c"
  mem_all a := by cases a <;> decide
  word_injective a b := by cases a <;> cases b <;> decide
  trim_word a := by cases a <;> decide
  word_ne_empty a := by cases a <;> decide

/-- The side to which operators of one precedence group. -/
inductive Associativity where
  | left | right
deriving DecidableEq, Repr

instance : Vocabulary Associativity where
  kind := "Associativity"
  all := [.left, .right]
  word
    | .left => "left"
    | .right => "right"
  mem_all a := by cases a <;> decide
  word_injective a b := by cases a <;> cases b <;> decide
  trim_word a := by cases a <;> decide
  word_ne_empty a := by cases a <;> decide

/-- What a semantic action does when its rule is recognised. -/
inductive ActionKind where
  | evaluate | declare | assign | call
deriving DecidableEq, Repr

instance : Vocabulary ActionKind where
  kind := "ActionType"
  all := [.evaluate, .declare, .assign, .call]
  word
    | .evaluate => "evaluate"
    | .declare => "declare"
    | .assign => "assign"
    | .call => "call"
  mem_all a := by cases a <;> decide
  word_injective a b := by cases a <;> cases b <;> decide
  trim_word a := by cases a <;> decide
  word_ne_empty a := by cases a <;> decide

/-- What a syntax rule describes. -/
inductive RuleKind where
  | statement | expression | declaration
deriving DecidableEq, Repr

instance : Vocabulary RuleKind where
  kind := "RuleType"
  all := [.statement, .expression, .declaration]
  word
    | .statement => "statement"
    | .expression => "expression"
    | .declaration => "declaration"
  mem_all a := by cases a <;> decide
  word_injective a b := by cases a <;> cases b <;> decide
  trim_word a := by cases a <;> decide
  word_ne_empty a := by cases a <;> decide

/-- What a reserved word is for. -/
inductive WordClass where
  | controlFlow | declaration | literal | operator
deriving DecidableEq, Repr

instance : Vocabulary WordClass where
  kind := "KeywordCategory"
  all := [.controlFlow, .declaration, .literal, .operator]
  word
    | .controlFlow => "control_flow"
    | .declaration => "declaration"
    | .literal => "literal"
    | .operator => "operator"
  mem_all a := by cases a <;> decide
  word_injective a b := by cases a <;> cases b <;> decide
  trim_word a := by cases a <;> decide
  word_ne_empty a := by cases a <;> decide

/-- What an operator computes. -/
inductive OperationKind where
  | arithmetic | logical | comparison | bitwise
deriving DecidableEq, Repr

instance : Vocabulary OperationKind where
  kind := "OperationType"
  all := [.arithmetic, .logical, .comparison, .bitwise]
  word
    | .arithmetic => "arithmetic"
    | .logical => "logical"
    | .comparison => "comparison"
    | .bitwise => "bitwise"
  mem_all a := by cases a <;> decide
  word_injective a b := by cases a <;> cases b <;> decide
  trim_word a := by cases a <;> decide
  word_ne_empty a := by cases a <;> decide

/-- What a built-in function yields: nothing, or a value of a data type. -/
inductive ReturnType where
  | void
  | value (type : DataType)
deriving DecidableEq, Repr

def ReturnType.dataType? : ReturnType → Option DataType
  | .void => none
  | .value type => some type

instance : Vocabulary ReturnType where
  kind := "ReturnType"
  all := .void :: (Vocabulary.all (α := DataType)).map .value
  word
    | .void => "void"
    | .value type => Vocabulary.word type
  mem_all a := by
    cases a with
    | void => simp
    | value type => simp [Vocabulary.mem_all]
  word_injective a b := by
    cases a with
    | void => cases b with
      | void => simp
      | value type => cases type <;> decide
    | value first => cases b with
      | void => cases first <;> decide
      | value second => cases first <;> cases second <;> decide
  trim_word a := by
    cases a with
    | void => decide
    | value type => exact Vocabulary.trim_word type
  word_ne_empty a := by
    cases a with
    | void => decide
    | value type => exact Vocabulary.word_ne_empty type

end LanguageBlueprint
