/-
  LanguageBlueprint/Proofs/Generation/OperatorTable.lean
  ======================================================
  **What a reader of the operator table sees.**  The language reference lists the
  operators in a table, one row each.  A reader takes the lines between the
  table's separator row and the next heading, and splits each at its bars; a bar
  right behind a backslash is escaped and splits nothing, as in every table of
  Markdown.  The rows are found, since none of them is a heading.  A row has its
  three cells exactly when the symbol has no bar that splits it: the symbol is put
  into the row as it is.

    * the lines of a text              — `lines_unlines`, `linesBetween_eq`;
    * pieces between bars              — `splitBars_append`, `length_splitBars_eq_one_iff`;
    * the cells of one row             — `cells_operatorRow_iff`, `length_cells_operatorRow_iff`;
    * the table of a reference         — `Tabulates`, `tabulates_referenceText`;
    * the table of a generated file    — `operator_table_read_back`.
-/
import LanguageBlueprint.Proofs.Generation.Comments
import LanguageBlueprint.Proofs.Generation.Contents
import LanguageBlueprint.Proofs.Review.Verdict

namespace LanguageBlueprint

open Text

namespace Markdown

/-! ### Lines -/

def lines (text : String) : List String := (text.toList.splitOn '\n').map String.ofList

/-- The lines after the first one that is `start`, up to the next one that is `stop`. -/
def linesBetween (start stop : String) (all : List String) : List String :=
  ((all.dropWhile (· != start)).drop 1).takeWhile (· != stop)

theorem lines_of_unbroken {text : String} (h : '\n' ∉ text.toList) : lines text = [text] := by
  have hone : text.toList.splitOn '\n' = [text.toList] :=
    splitOn_eq_iff.mpr ⟨by simp [List.intercalate], by simp, by simpa using h⟩
  rw [lines, hone, List.map_singleton, String.ofList_toList]

theorem lines_break (text rest : String) :
    lines (text ++ "\n" ++ rest) = lines text ++ lines rest := by
  have hchars : (text ++ "\n" ++ rest).toList = text.toList ++ '\n' :: rest.toList := by simp
  rw [lines, hchars, List.splitOn_append_cons_self, List.map_append]
  rfl

/-- Each text is followed by a line break, the last one too. -/
theorem lines_unlines (texts : List String) :
    lines (Blueprint.unlines texts) = texts.flatMap lines ++ [""] := by
  induction texts with
  | nil => rfl
  | cons text texts ih =>
      have hcons : Blueprint.unlines (text :: texts) = text ++ "\n" ++ Blueprint.unlines texts := by
        apply String.toList_injective
        simp [Blueprint.unlines]
      rw [hcons, lines_break, ih, List.flatMap_cons, List.append_assoc]

theorem flatMap_lines {texts : List String} (h : ∀ text ∈ texts, '\n' ∉ text.toList) :
    texts.flatMap lines = texts := by
  induction texts with
  | nil => rfl
  | cons text texts ih =>
      rw [List.forall_mem_cons] at h
      rw [List.flatMap_cons, lines_of_unbroken h.1, ih h.2]
      rfl

theorem linesBetween_eq {start stop : String} {front inner : List String}
    (hfront : start ∉ front) (hinner : stop ∉ inner) (rest : List String) :
    linesBetween start stop (front ++ start :: (inner ++ stop :: rest)) = inner := by
  have hskip : (front ++ start :: (inner ++ stop :: rest)).dropWhile (· != start) =
      start :: (inner ++ stop :: rest) := by
    rw [List.dropWhile_append_of_pos]
    · simp
    · intro line hline
      exact bne_iff_ne.mpr (ne_of_mem_of_not_mem hline hfront)
  rw [linesBetween, hskip, List.drop_one, List.tail_cons, List.takeWhile_append_of_pos]
  · simp
  · intro line hline
    exact bne_iff_ne.mpr (ne_of_mem_of_not_mem hline hinner)

/-! ### Pieces between bars -/

/-- The pieces of a text between its bars; `escaped` tells whether the character before the text
is a backslash. -/
def splitBars : Bool → List Char → List (List Char)
  | _, [] => [[]]
  | escaped, c :: rest =>
      if c = '|' ∧ escaped = false then [] :: splitBars false rest
      else (splitBars (c == '\\') rest).modifyHead (c :: ·)

/-- The cells of a row of a table, which begins and ends with a bar. -/
def cells (row : String) : List String :=
  (((splitBars false row.toList).drop 1).dropLast).map
    (fun piece => String.ofList (trimChars piece))

/-- Somewhere in the text there is a bar with no backslash right before it. -/
def HasBareBar (text : String) : Prop :=
  ∃ front back, text.toList = front ++ '|' :: back ∧ front.getLast? ≠ some '\\'

theorem splitBars_ne_nil (escaped : Bool) (cs : List Char) : splitBars escaped cs ≠ [] := by
  induction cs generalizing escaped with
  | nil => exact List.cons_ne_nil _ _
  | cons c rest ih =>
      rw [splitBars]
      split
      · exact List.cons_ne_nil _ _
      · rw [Ne, List.modifyHead_eq_nil_iff]
        exact ih (c == '\\')

/-- A bar behind a space ends a piece. -/
theorem splitBars_append (escaped : Bool) (cs rest : List Char) :
    splitBars escaped (cs ++ ' ' :: '|' :: rest) =
      splitBars escaped (cs ++ [' ']) ++ splitBars false rest := by
  induction cs generalizing escaped with
  | nil => simp [splitBars]
  | cons c cs ih =>
      rw [List.cons_append, List.cons_append, splitBars, splitBars]
      split
      · rw [ih, List.cons_append]
      · obtain ⟨first, others, hpieces⟩ :=
          List.exists_cons_of_ne_nil (splitBars_ne_nil (c == '\\') (cs ++ [' ']))
        rw [ih, hpieces, List.cons_append, List.modifyHead_cons, List.modifyHead_cons,
          List.cons_append]

theorem splitBars_of_not_mem {cs : List Char} (h : '|' ∉ cs) (escaped : Bool) :
    splitBars escaped cs = [cs] := by
  induction cs generalizing escaped with
  | nil => rfl
  | cons c cs ih =>
      rw [List.mem_cons, not_or] at h
      have hc : ¬ (c = '|' ∧ escaped = false) := fun hbar => h.1 hbar.1.symm
      rw [splitBars, if_neg hc, ih h.2, List.modifyHead_cons]

/-- A text is one piece exactly when none of its bars is bare; what stands before the text tells
whether a bar at its beginning is. -/
theorem length_splitBars_eq_one_iff {escaped : Bool} {cs : List Char} :
    (splitBars escaped cs).length = 1 ↔
      ∀ front back, cs = front ++ '|' :: back →
        (front = [] ∧ escaped = true) ∨ front.getLast? = some '\\' := by
  induction cs generalizing escaped with
  | nil => simp [splitBars]
  | cons c cs ih =>
      rw [splitBars]
      split
      · rename_i hbar
        obtain ⟨rfl, rfl⟩ := hbar
        have hpieces : 0 < (splitBars false cs).length :=
          List.length_pos_iff.mpr (splitBars_ne_nil false cs)
        constructor
        · intro hlength
          rw [List.length_cons] at hlength
          omega
        · intro hescaped
          simpa using hescaped [] cs rfl
      · rename_i hplain
        rw [List.length_modifyHead, ih]
        constructor
        · intro hescaped front back hcs
          cases front with
          | nil =>
              obtain ⟨rfl, -⟩ := List.cons_eq_cons.mp hcs
              exact .inl ⟨rfl, by simpa using hplain⟩
          | cons d front =>
              obtain ⟨rfl, hrest⟩ := List.cons_eq_cons.mp hcs
              rcases hescaped front back hrest with ⟨rfl, hslash⟩ | hlast
              · exact .inr (by simpa using hslash)
              · exact .inr (by rw [List.getLast?_cons, hlast]; rfl)
        · rintro hescaped front back rfl
          rcases hescaped (c :: front) back rfl with ⟨hnil, -⟩ | hlast
          · cases hnil
          · cases front with
            | nil => exact .inl ⟨rfl, by simpa using hlast⟩
            | cons d front =>
                rw [List.getLast?_cons_cons] at hlast
                exact .inr hlast

theorem length_splitBars_symbol (text : String) :
    (splitBars false text.toList).length = 1 ↔ ¬ HasBareBar text := by
  rw [length_splitBars_eq_one_iff, HasBareBar]
  constructor
  · rintro hescaped ⟨front, back, htext, hbare⟩
    rcases hescaped front back htext with ⟨-, hfalse⟩ | hlast
    · cases hfalse
    · exact hbare hlast
  · intro hnone front back htext
    right
    by_contra hbare
    exact hnone ⟨front, back, htext, hbare⟩

/-- A text without bars lengthens the last piece. -/
theorem length_splitBars_append {rest : List Char} (h : '|' ∉ rest) (escaped : Bool)
    (cs : List Char) :
    (splitBars escaped (cs ++ rest)).length = (splitBars escaped cs).length := by
  induction cs generalizing escaped with
  | nil => rw [List.nil_append, splitBars_of_not_mem h]; rfl
  | cons c cs ih =>
      rw [List.cons_append, splitBars, splitBars]
      split
      · rw [List.length_cons, List.length_cons, ih]
      · rw [List.length_modifyHead, List.length_modifyHead, ih]

theorem splitBars_of_length (escaped : Bool) {cs : List Char}
    (h : (splitBars escaped cs).length = 1) : splitBars escaped cs = [cs] := by
  induction cs generalizing escaped with
  | nil => rfl
  | cons c cs ih =>
      rw [splitBars] at h ⊢
      split at h
      · have hpieces : 0 < (splitBars false cs).length :=
          List.length_pos_iff.mpr (splitBars_ne_nil false cs)
        rw [List.length_cons] at h
        omega
      · rename_i hplain
        rw [List.length_modifyHead] at h
        rw [if_neg hplain, ih _ h, List.modifyHead_cons]

/-! ### The cells of one row -/

/-- The symbol as it stands in its row, between the bars. -/
def symbolPiece (symbol : String) : List Char := ' ' :: '`' :: (symbol.toList ++ ['`', ' '])

theorem length_splitBars_symbolPiece (symbol : String) :
    (splitBars false (symbolPiece symbol)).length = 1 ↔ ¬ HasBareBar symbol := by
  have hlength : (splitBars false (symbolPiece symbol)).length =
      (splitBars false (symbol.toList ++ ['`', ' '])).length := by
    simp [symbolPiece, splitBars]
  rw [hlength, length_splitBars_append (by decide), length_splitBars_symbol]

theorem trimChars_symbolPiece (symbol : String) :
    trimChars (symbolPiece symbol) = '`' :: (symbol.toList ++ ['`']) := by
  have hspace : isBlankChar ' ' = true := rfl
  have hquote : isBlankChar '`' = false := rfl
  simp [trimChars, symbolPiece, hspace, hquote]

theorem trimChars_word {word : String} (hword : ∀ c ∈ word.toList, isBlankChar c = false) :
    String.ofList (trimChars (' ' :: (word.toList ++ [' ']))) = word := by
  have hspaces : ∀ c ∈ [' '], isBlankChar c = true := by simp [isBlankChar]
  have htrim := Number.trimChars_between hspaces hword hspaces
  rw [List.singleton_append, List.cons_append] at htrim
  rw [htrim, String.ofList_toList]

end Markdown

namespace Blueprint

open Markdown

variable {operator : Operator} {precedence : Int64}

theorem toList_operatorRow (h : operator.precedence = some precedence) :
    (operatorRow operator).toList =
      '|' :: (' ' :: '`' :: (operator.symbol.toList ++ ['`']) ++
        ' ' :: '|' :: (' ' :: (toString precedence.toInt).toList ++
          ' ' :: '|' :: (' ' :: (Vocabulary.word operator.associativity).toList ++
            ' ' :: '|' :: []))) := by
  simp [operatorRow, h]

theorem associativity_plain (side : Associativity) :
    '|' ∉ (Vocabulary.word side).toList ∧
      ∀ c ∈ (Vocabulary.word side).toList, isBlankChar c = false := by
  simp only [← List.all_eq_true, ← Bool.not_eq_true']
  cases side <;> decide

theorem precedence_plain (n : Int) :
    '|' ∉ (toString n).toList ∧ ∀ c ∈ (toString n).toList, isBlankChar c = false :=
  ⟨Number.not_mem_toString rfl (by decide) n, (Number.writesInteger_toString n).not_blank⟩

theorem splitBars_word {word : String} (h : '|' ∉ word.toList) :
    splitBars false (' ' :: (word.toList ++ [' '])) = [' ' :: (word.toList ++ [' '])] :=
  splitBars_of_not_mem (by simp [h]) false

/-- A row is split at the bare bars of the symbol, and into the two other cells. -/
theorem cells_operatorRow (h : operator.precedence = some precedence) :
    cells (operatorRow operator) =
      (splitBars false (symbolPiece operator.symbol)).map
          (fun piece => String.ofList (trimChars piece)) ++
        [toString precedence.toInt, Vocabulary.word operator.associativity] := by
  have hchars := toList_operatorRow h
  obtain ⟨hprecedenceBar, hprecedenceBlank⟩ := precedence_plain precedence.toInt
  obtain ⟨hsideBar, hsideBlank⟩ := associativity_plain operator.associativity
  generalize toString precedence.toInt = precedenceWord at *
  generalize Vocabulary.word operator.associativity = sideWord at *
  have hsymbol : ' ' :: '`' :: (operator.symbol.toList ++ ['`']) ++ [' '] =
      symbolPiece operator.symbol := by
    simp [symbolPiece]
  have hpieces : splitBars false (operatorRow operator).toList =
      [] :: (splitBars false (symbolPiece operator.symbol) ++
        [' ' :: (precedenceWord.toList ++ [' ']), ' ' :: (sideWord.toList ++ [' ']), []]) := by
    rw [hchars, splitBars, if_pos ⟨rfl, rfl⟩, splitBars_append, splitBars_append,
      splitBars_append, hsymbol, List.cons_append, List.cons_append, splitBars_word hprecedenceBar,
      splitBars_word hsideBar]
    rfl
  rw [cells, hpieces, List.drop_one, List.tail_cons, List.dropLast_append_cons, List.map_append]
  simp [trimChars_word hprecedenceBlank, trimChars_word hsideBlank]

theorem length_cells_operatorRow_iff (h : operator.precedence = some precedence) :
    (cells (operatorRow operator)).length = 3 ↔ ¬ HasBareBar operator.symbol := by
  rw [cells_operatorRow h, List.length_append, List.length_map, ← length_splitBars_symbolPiece]
  simp

/-- The cells are those of the operator exactly when its symbol has no bar that splits it. -/
theorem cells_operatorRow_iff (h : operator.precedence = some precedence) :
    cells (operatorRow operator) =
        ["`" ++ operator.symbol ++ "`", toString precedence.toInt,
          Vocabulary.word operator.associativity] ↔ ¬ HasBareBar operator.symbol := by
  constructor
  · intro hcells
    rw [← length_cells_operatorRow_iff h, hcells]
    rfl
  · intro hbare
    have hwhole := splitBars_of_length false ((length_splitBars_symbolPiece _).mpr hbare)
    have hsymbol : String.ofList (trimChars (symbolPiece operator.symbol)) =
        "`" ++ operator.symbol ++ "`" := by
      rw [trimChars_symbolPiece]
      apply String.toList_injective
      simp
    rw [cells_operatorRow h, hwhole, List.map_singleton, hsymbol, List.singleton_append]

/-! ### The table of a reference -/

def separatorRow : String := "|---|---|---|"

def builtinsHeading : String := "## Built-in Functions"

/-- What the reference holds above the separator row. -/
def aboveTable (b : Blueprint) : List String :=
  ["# " ++ b.name ++ " Language Reference", "", "## Keywords", ""] ++ b.keywords.map keywordLine ++
    ["", "## Operators", "", "| Symbol | Precedence | Associativity |"]

/-- What the reference holds below the heading of the built-in functions. -/
def belowTable (b : Blueprint) : List String :=
  "" :: (b.builtins.flatMap builtinLines ++ ["## Data Types", ""] ++
    b.types.toList.map (fun type => "- `" ++ Vocabulary.word type ++ "`"))

variable {b : Blueprint}

theorem referenceText_eq (b : Blueprint) :
    b.referenceText = unlines (b.aboveTable ++ separatorRow ::
      (b.operators.map operatorRow ++ "" :: builtinsHeading :: b.belowTable)) := by
  simp [referenceText, aboveTable, belowTable, separatorRow, builtinsHeading]

theorem operatorRow_unbroken (hprecedence : operator.precedence = some precedence)
    (h : '\n' ∉ operator.symbol.toList) : '\n' ∉ (operatorRow operator).toList := by
  have hnumber : '\n' ∉ (toString precedence.toInt).toList :=
    Number.not_mem_toString rfl (by decide) _
  have hside : '\n' ∉ (Vocabulary.word operator.associativity).toList := by
    cases operator.associativity <;> decide
  rw [toList_operatorRow hprecedence]
  generalize toString precedence.toInt = number at hnumber
  simp [h, hnumber, hside]

/-- No row is the heading that ends the table. -/
theorem operatorRow_ne_builtinsHeading (operator : Operator) :
    operatorRow operator ≠ builtinsHeading := by
  intro heq
  have hchars := congrArg String.toList heq
  simp [operatorRow, builtinsHeading] at hchars

/-- What a reader finds in the table of a reference. -/
structure Tabulates (b : Blueprint) (text : String) : Prop where
  /-- Below the separator row there are the rows, an empty line and the next heading. -/
  placed : ∃ below, lines text = b.aboveTable.flatMap lines ++
    separatorRow :: (b.operators.map operatorRow ++ "" :: builtinsHeading :: below)
  /-- The rows are found between the two, unless there is another separator row above. -/
  found : separatorRow ∉ b.aboveTable.flatMap lines →
    linesBetween separatorRow builtinsHeading (lines text) = b.operators.map operatorRow ++ [""]
  findable : '\n' ∉ b.name.toList → (∀ keyword ∈ b.keywords, '\n' ∉ keyword.word.toList ∧
    ∀ description, keyword.description = some description → '\n' ∉ description.toList) →
    separatorRow ∉ b.aboveTable.flatMap lines
  /-- A row has its three cells exactly when the symbol has no bar that splits it. -/
  rows : ∀ operator ∈ b.operators, ∃ precedence, operator.precedence = some precedence ∧
    (cells (operatorRow operator) = ["`" ++ operator.symbol ++ "`", toString precedence.toInt,
      Vocabulary.word operator.associativity] ↔ ¬ HasBareBar operator.symbol) ∧
    ((cells (operatorRow operator)).length = 3 ↔ ¬ HasBareBar operator.symbol)

theorem keywordLine_unbroken {keyword : Keyword} (hword : '\n' ∉ keyword.word.toList)
    (hdescription : ∀ description, keyword.description = some description →
      '\n' ∉ description.toList) : '\n' ∉ (keywordLine keyword).toList := by
  have hcategory : ∀ category : WordClass, '\n' ∉ (Vocabulary.word category).toList := by
    intro category
    cases category <;> decide
  unfold keywordLine
  cases hsome : keyword.description with
  | none => cases keyword.category <;> simp [hword, hcategory]
  | some description =>
      have hrest := hdescription description hsome
      cases keyword.category <;> simp [hword, hcategory, hrest]

theorem mem_aboveTable {line : String} : line ∈ b.aboveTable ↔
    line = "# " ++ b.name ++ " Language Reference" ∨
    (∃ keyword ∈ b.keywords, line = keywordLine keyword) ∨
    line ∈ ["", "## Keywords", "## Operators", "| Symbol | Precedence | Associativity |"] := by
  simp only [aboveTable, List.mem_append, List.mem_cons, List.mem_map, List.not_mem_nil, or_false,
    eq_comm]
  grind

theorem separatorRow_not_mem_aboveTable (hname : '\n' ∉ b.name.toList)
    (hkeywords : ∀ keyword ∈ b.keywords, '\n' ∉ keyword.word.toList ∧
      ∀ description, keyword.description = some description → '\n' ∉ description.toList) :
    separatorRow ∉ b.aboveTable.flatMap lines := by
  have hunbroken : ∀ line ∈ b.aboveTable, '\n' ∉ line.toList := by
    intro line hline
    rcases mem_aboveTable.mp hline with rfl | ⟨keyword, hkeyword, rfl⟩ | hfixed
    · simp [hname]
    · obtain ⟨hword, hdescription⟩ := hkeywords keyword hkeyword
      exact keywordLine_unbroken hword hdescription
    · have hplain : ∀ line ∈ ["", "## Keywords", "## Operators",
          "| Symbol | Precedence | Associativity |"], '\n' ∉ line.toList := by
        decide
      exact hplain line hfixed
  rw [flatMap_lines hunbroken, mem_aboveTable]
  rintro (htitle | ⟨keyword, -, hkeyword⟩ | hfixed)
  · have hchars := congrArg String.toList htitle
    simp [separatorRow] at hchars
  · have hchars := congrArg String.toList hkeyword
    simp [separatorRow, keywordLine] at hchars
  · revert hfixed
    decide

theorem tabulates_referenceText
    (hprecedences : ∀ operator ∈ b.operators, operator.precedence ≠ none)
    (hbreaks : ∀ operator ∈ b.operators, '\n' ∉ operator.symbol.toList) :
    b.Tabulates b.referenceText := by
  have hprecedence : ∀ operator ∈ b.operators,
      ∃ precedence, operator.precedence = some precedence :=
    fun operator hin => Option.ne_none_iff_exists'.mp (hprecedences operator hin)
  have hrows : (b.operators.map operatorRow).flatMap lines = b.operators.map operatorRow := by
    apply flatMap_lines
    rw [List.forall_mem_map]
    intro operator hin
    obtain ⟨precedence, hsome⟩ := hprecedence operator hin
    exact operatorRow_unbroken hsome (hbreaks operator hin)
  have hlines : lines b.referenceText = b.aboveTable.flatMap lines ++
      separatorRow :: (b.operators.map operatorRow ++ "" :: builtinsHeading ::
        (b.belowTable.flatMap lines ++ [""])) := by
    have hplain : lines separatorRow = [separatorRow] ∧ lines "" = [""] ∧
        lines builtinsHeading = [builtinsHeading] :=
      ⟨lines_of_unbroken (by decide), lines_of_unbroken (by decide), lines_of_unbroken (by decide)⟩
    simp [referenceText_eq, lines_unlines, hrows, hplain]
  constructor
  case placed => exact ⟨_, hlines⟩
  case found =>
    intro habove
    rw [hlines]
    have hheading : builtinsHeading ∉ b.operators.map operatorRow ++ [""] := by
      rw [List.mem_append, List.mem_map, List.mem_singleton, not_or]
      refine ⟨?_, by decide⟩
      rintro ⟨operator, -, heq⟩
      exact operatorRow_ne_builtinsHeading operator heq
    have hfound := linesBetween_eq habove hheading (b.belowTable.flatMap lines ++ [""])
    rwa [List.append_assoc] at hfound
  case findable => exact separatorRow_not_mem_aboveTable
  case rows =>
    intro operator hin
    obtain ⟨precedence, hsome⟩ := hprecedence operator hin
    exact ⟨precedence, hsome, cells_operatorRow_iff hsome, length_cells_operatorRow_iff hsome⟩

/-! ### The table of a generated file -/

theorem generate_reference {options : GenerateOptions} {artifacts : List Artifact}
    (hdocumentation : options.documentation = true)
    (h : Scaffold.generate b options = .ok artifacts) :
    textAt "docs/LANGUAGE_REFERENCE.md" artifacts = some b.referenceText := by
  apply textAt_of_mem (Scaffold.packable_of_generate h).distinct
  obtain ⟨-, rfl⟩ := Scaffold.generate_eq_ok_iff.mp h
  simp [Scaffold.files, Scaffold.documentation, hdocumentation]

/-- **What is read of the operator table.**  If no symbol has a line break, then the language
reference of a blueprint that may be generated is there, and its table holds one row for each
operator, in order; and a row has three cells, with the symbol in back quotes, the precedence and
the associativity, exactly when the symbol has no bar without a backslash before it. -/
theorem operator_table_read_back (b : Blueprint) (h : b.permitsGenerate = true)
    (hbreaks : ∀ operator ∈ b.operators, '\n' ∉ operator.symbol.toList) :
    (∃ artifacts,
      Scaffold.generate b { examples := false, documentation := true } = .ok artifacts) ∧
    ∀ options artifacts, options.documentation = true →
      Scaffold.generate b options = .ok artifacts →
      ∃ text, textAt "docs/LANGUAGE_REFERENCE.md" artifacts = some text ∧ b.Tabulates text := by
  have hgenerable := Blueprint.review_eq_nil_iff_generable.mp (List.isEmpty_iff.mp h)
  constructor
  · have hname : isBlank b.name = false := Review.isBlank_eq_false.mpr hgenerable.name
    exact ⟨_, Scaffold.generate_eq_ok_iff.mpr ⟨⟨hname, nofun⟩, rfl⟩⟩
  · intro options artifacts hdocumentation hgenerate
    exact ⟨b.referenceText, generate_reference hdocumentation hgenerate,
      tabulates_referenceText hgenerable.precedences hbreaks⟩

/-- One of the operators is a bar behind a backslash. -/
def escapingOperators : Blueprint where
  name := "Choices"
  operators := [{ symbol := "+", precedence := some 1 },
    { symbol := "\\|", precedence := some (-2), associativity := .right }]

theorem operator_table_read_back_escaping :
    escapingOperators.permitsGenerate = true ∧
    (∀ operator ∈ escapingOperators.operators, '\n' ∉ operator.symbol.toList) ∧
    ∃ artifacts text,
      Scaffold.generate escapingOperators { examples := false, documentation := true } =
        .ok artifacts ∧
      textAt "docs/LANGUAGE_REFERENCE.md" artifacts = some text ∧
      linesBetween separatorRow builtinsHeading (lines text) =
        ["| `+` | 1 | left |", "| `\\|` | -2 | right |", ""] ∧
      cells "| `\\|` | -2 | right |" = ["`\\|`", "-2", "right"] := by
  have hpermits : escapingOperators.permitsGenerate = true := by decide
  have hbreaks : ∀ operator ∈ escapingOperators.operators, '\n' ∉ operator.symbol.toList := by
    decide
  obtain ⟨⟨artifacts, hmade⟩, hread⟩ := operator_table_read_back escapingOperators hpermits hbreaks
  obtain ⟨text, htext, htable⟩ := hread _ artifacts rfl hmade
  have hfound := htable.found (htable.findable (by decide) (List.forall_mem_nil _))
  exact ⟨hpermits, hbreaks, artifacts, text, hmade, htext, hfound.trans (by decide), by decide⟩

/-- A language with a usual symbol for the logical or. -/
def logicalOr : Blueprint where
  name := "Toy"
  operators := [{ symbol := "||", precedence := some 1 }]

/-- The symbol splits its own row. -/
theorem doubled_bar_splits_row :
    logicalOr.permitsGenerate = true ∧
    (∀ operator ∈ logicalOr.operators, '\n' ∉ operator.symbol.toList) ∧
    linesBetween separatorRow builtinsHeading (lines logicalOr.referenceText) =
      ["| `||` | 1 | left |", ""] ∧
    cells "| `||` | 1 | left |" = ["`", "", "`", "1", "left"] := by
  have hbreaks : ∀ operator ∈ logicalOr.operators, '\n' ∉ operator.symbol.toList := by decide
  have htable := tabulates_referenceText (b := logicalOr) (by decide) hbreaks
  have hfound := htable.found (htable.findable (by decide) (List.forall_mem_nil _))
  exact ⟨by decide, hbreaks, hfound.trans (by decide), by decide⟩

end Blueprint

end LanguageBlueprint
