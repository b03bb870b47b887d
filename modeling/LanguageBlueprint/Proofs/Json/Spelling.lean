/-
  LanguageBlueprint/Proofs/Json/Spelling.lean
  ===========================================
  **The spellings of a JSON value.**  A value has many spellings: blanks may stand
  between its tokens, and there are many ways to write a string.  `Spells` is the
  grammar of all of them, that of JSON.  The reader finds a value again in each of
  its spellings, however the text goes on afterwards.

    * how the reader treats one token        — `readValue_string`, `readValue_list`,
                                                `readItems_last`, …;
    * a spelling is read to its end          — `readValue_of_spells`;
    * so is a whole text with one spelling   — `read_between`, `read_of_isTextOf`.
-/
import LanguageBlueprint.Json.Read
import LanguageBlueprint.Json.Write
import LanguageBlueprint.Proofs.Json.Token

namespace LanguageBlueprint.Json

/-! ### Blanks -/

/-- Characters that may stand between tokens. -/
def Gap (cs : List Char) : Prop := ∀ c ∈ cs, isSpace c = true

theorem Gap.nil : Gap [] := by
  intro c hc
  cases hc

theorem skipSpace_gap {gap : List Char} (h : Gap gap) (cs : List Char) :
    skipSpace (gap ++ cs) = skipSpace cs := by
  unfold skipSpace
  exact List.dropWhile_append_of_pos h

theorem skipSpace_cons {c : Char} (h : isSpace c = false) (cs : List Char) :
    skipSpace (c :: cs) = c :: cs := by
  simp [skipSpace, h]

theorem skipSpace_skipSpace (cs : List Char) : skipSpace (skipSpace cs) = skipSpace cs := by
  unfold skipSpace
  induction cs with
  | nil => rfl
  | cons c cs ih =>
      by_cases hc : isSpace c = true
      · simpa [hc] using ih
      · simp [hc]

/-! ### The grammar -/

mutual

/-- The characters spell the value. -/
inductive Spells : Json → List Char → Prop where
  | null : Spells .null ['n', 'u', 'l', 'l']
  | yes : Spells (.bool true) ['t', 'r', 'u', 'e']
  | no : Spells (.bool false) ['f', 'a', 'l', 's', 'e']
  | number {numeral : Numeral} {cs : List Char} (h : numeral.SpellsNumeral cs) :
      Spells (.number numeral) cs
  | text {s : String} {cs : List Char} (h : SpellsString (some s) cs) : Spells (.text s) cs
  | illegible {cs : List Char} (h : SpellsString none cs) : Spells .illegible cs
  | emptyList {gap : List Char} (hgap : Gap gap) : Spells (.list [] true) ('[' :: (gap ++ [']']))
  | list {items : List Json} {cs : List Char} (h : SpellsItems items cs) :
      Spells (.list items true) ('[' :: (cs ++ [']']))
  | emptyObject {gap : List Char} (hgap : Gap gap) :
      Spells (.object [] true) ('\x7b' :: (gap ++ ['\x7d']))
  | object {members : List (Option String × Json)} {cs : List Char}
      (h : SpellsMembers members cs) : Spells (.object members true) ('\x7b' :: (cs ++ ['\x7d']))

/-- The characters spell the items, with commas between them. -/
inductive SpellsItems : List Json → List Char → Prop where
  | last {before after cs : List Char} {item : Json} (hbefore : Gap before) (hafter : Gap after)
      (h : Spells item cs) : SpellsItems [item] (before ++ cs ++ after)
  | cons {before after cs more : List Char} {item : Json} {items : List Json}
      (hbefore : Gap before) (hafter : Gap after) (h : Spells item cs)
      (hmore : SpellsItems items more) :
      SpellsItems (item :: items) (before ++ cs ++ after ++ ',' :: more)

/-- The characters spell the members, with commas between them. -/
inductive SpellsMembers : List (Option String × Json) → List Char → Prop where
  | last {before between start after keyText cs : List Char} {key : Option String} {value : Json}
      (hbefore : Gap before) (hkey : SpellsString key keyText) (hbetween : Gap between)
      (hstart : Gap start) (hafter : Gap after) (h : Spells value cs) :
      SpellsMembers [(key, value)]
        (before ++ keyText ++ between ++ ':' :: (start ++ cs ++ after))
  | cons {before between start after keyText cs more : List Char} {key : Option String}
      {value : Json} {members : List (Option String × Json)} (hbefore : Gap before)
      (hkey : SpellsString key keyText) (hbetween : Gap between) (hstart : Gap start)
      (hafter : Gap after) (h : Spells value cs) (hmore : SpellsMembers members more) :
      SpellsMembers ((key, value) :: members)
        (before ++ keyText ++ between ++ ':' :: (start ++ cs ++ after ++ ',' :: more))

end

/-- The text holds the value and nothing else, but for blanks around it. -/
inductive IsTextOf : String → Json → Prop where
  | spelled {before after cs : List Char} {json : Json} (hbefore : Gap before)
      (hafter : Gap after) (h : Spells json cs) :
      IsTextOf (String.ofList (before ++ cs ++ after)) json

/-! ### How a spelling begins and ends -/

theorem isSpace_eq_false_of_head {c : Char} (h : c = '-' ∨ c.isDigit = true) :
    isSpace c = false := by
  rcases h with rfl | hdigit
  · decide
  · rw [Bool.eq_false_iff]
    intro hspace
    simp only [isSpace, Bool.or_eq_true, beq_iff_eq] at hspace
    rcases hspace with ((rfl | rfl) | rfl) | rfl <;> exact absurd hdigit (by decide)

/-- A spelling begins neither with a blank nor with the end of a list. -/
theorem Spells.head {json : Json} {cs : List Char} (h : Spells json cs) :
    ∃ c tail, cs = c :: tail ∧ isSpace c = false ∧ c ≠ ']' := by
  cases h with
  | number hnumeral =>
      obtain ⟨c, tail, hcs, hc⟩ := hnumeral.head
      refine ⟨c, tail, hcs, isSpace_eq_false_of_head hc, ?_⟩
      rintro rfl
      exact absurd hc (by decide)
  | null => exact ⟨_, _, rfl, by decide⟩
  | yes => exact ⟨_, _, rfl, by decide⟩
  | no => exact ⟨_, _, rfl, by decide⟩
  | text hstring =>
      obtain ⟨-, inner, rfl, -⟩ := hstring.scan
      exact ⟨_, _, rfl, by decide⟩
  | illegible hstring =>
      obtain ⟨-, inner, rfl, -⟩ := hstring.scan
      exact ⟨_, _, rfl, by decide⟩
  | emptyList hgap => exact ⟨_, _, rfl, by decide⟩
  | list hitems => exact ⟨_, _, rfl, by decide⟩
  | emptyObject hgap => exact ⟨_, _, rfl, by decide⟩
  | object hmembers => exact ⟨_, _, rfl, by decide⟩

/-- Behind the bracket of a list with items, and blanks, comes no closing bracket. -/
theorem SpellsItems.head {items : List Json} {cs : List Char} (h : SpellsItems items cs)
    (rest : List Char) : ∃ c tail, skipSpace (cs ++ rest) = c :: tail ∧ c ≠ ']' := by
  cases h with
  | last hbefore hafter hitem =>
      obtain ⟨c, tail, rfl, hspace, hc⟩ := hitem.head
      simp only [List.append_assoc, List.cons_append, skipSpace_gap hbefore, skipSpace_cons hspace]
      exact ⟨c, _, rfl, hc⟩
  | cons hbefore hafter hitem hmore =>
      obtain ⟨c, tail, rfl, hspace, hc⟩ := hitem.head
      simp only [List.append_assoc, List.cons_append, skipSpace_gap hbefore, skipSpace_cons hspace]
      exact ⟨c, _, rfl, hc⟩

/-- Behind the brace of an object with members, and blanks, comes the quote of a key. -/
theorem SpellsMembers.head {members : List (Option String × Json)} {cs : List Char}
    (h : SpellsMembers members cs) (rest : List Char) :
    ∃ tail, skipSpace (cs ++ rest) = '"' :: tail := by
  have hquote : isSpace '"' = false := by decide
  cases h with
  | last hbefore hkey hbetween hstart hafter hvalue =>
      obtain ⟨-, inner, rfl, -⟩ := hkey.scan
      simp only [List.append_assoc, List.cons_append, skipSpace_gap hbefore,
        skipSpace_cons hquote]
      exact ⟨_, rfl⟩
  | cons hbefore hkey hbetween hstart hafter hvalue hmore =>
      obtain ⟨-, inner, rfl, -⟩ := hkey.scan
      simp only [List.append_assoc, List.cons_append, skipSpace_gap hbefore,
        skipSpace_cons hquote]
      exact ⟨_, rfl⟩

/-- What follows the blanks after a value ends an integer, if nothing in it continues one. -/
theorem endsInteger_gap {gap rest : List Char} (hgap : Gap gap)
    (hrest : Numeral.EndsInteger rest) : Numeral.EndsInteger (gap ++ rest) := by
  cases gap with
  | nil => exact hrest
  | cons c gap =>
      intro d hd
      have hspace : isSpace c = true := hgap c (by simp)
      simp only [List.cons_append, List.head?_cons, Option.mem_def, Option.some.injEq] at hd
      subst hd
      simp only [isSpace, Bool.or_eq_true, beq_iff_eq] at hspace
      rcases hspace with ((rfl | rfl) | rfl) | rfl <;> decide

theorem endsInteger_cons {c : Char} (hc : c = ',' ∨ c = ']' ∨ c = '\x7d') (rest : List Char) :
    Numeral.EndsInteger (c :: rest) := by
  intro d hd
  simp only [List.head?_cons, Option.mem_def, Option.some.injEq] at hd
  subst hd
  rcases hc with rfl | rfl | rfl <;> decide

/-! ### One step of the reader -/

theorem readValue_skipSpace (fuel : Nat) (cs : List Char) :
    readValue fuel (skipSpace cs) = readValue fuel cs := by
  cases fuel with
  | zero => simp only [readValue]
  | succ fuel => simp only [readValue, skipSpace_skipSpace]

theorem readItems_skipSpace (fuel : Nat) (cs : List Char) :
    readItems fuel (skipSpace cs) = readItems fuel cs := by
  cases fuel with
  | zero => simp only [readItems]
  | succ fuel => simp only [readItems, readValue_skipSpace]

theorem readMembers_skipSpace (fuel : Nat) (cs : List Char) :
    readMembers fuel (skipSpace cs) = readMembers fuel cs := by
  cases fuel with
  | zero => simp only [readMembers]
  | succ fuel => simp only [readMembers, skipSpace_skipSpace]

theorem readValue_gap {gap : List Char} (h : Gap gap) (fuel : Nat) (cs : List Char) :
    readValue fuel (gap ++ cs) = readValue fuel cs := by
  rw [← readValue_skipSpace, skipSpace_gap h, readValue_skipSpace]

theorem readValue_string {s? : Option String} {cs : List Char} (h : SpellsString s? cs)
    (fuel : Nat) (rest : List Char) :
    readValue (fuel + 1) (cs ++ rest) = (s?.elim .illegible .text, some rest) := by
  have hquote : isSpace '"' = false := by decide
  obtain ⟨pieces, inner, rfl, rfl, hscan⟩ := h.scan
  unfold readValue
  simp only [List.cons_append, skipSpace_cons hquote, readString, hscan]
  cases textOfPieces? pieces <;> rfl

theorem readValue_number {numeral : Numeral} {cs : List Char} (h : numeral.SpellsNumeral cs)
    (fuel : Nat) {rest : List Char} (hrest : Numeral.EndsInteger rest) :
    readValue (fuel + 1) (cs ++ rest) = (.number numeral, some rest) := by
  obtain ⟨c, tail, hcs, hc⟩ := h.head
  have hscan := Numeral.scan_of_spells h hrest
  rw [hcs, List.cons_append] at hscan ⊢
  unfold readValue
  rw [skipSpace_cons (isSpace_eq_false_of_head hc)]
  -- no other kind of value begins with a sign or a digit
  split
  case h_7 => simp only [readNumber, hscan]
  all_goals
    rename_i heq
    simp only [List.cons.injEq] at heq
    rcases hc with hc | hc
    · exact absurd (hc.symm.trans heq.1) (by decide)
    · rw [heq.1] at hc
      exact absurd hc (by decide)

theorem readValue_emptyList {gap : List Char} (hgap : Gap gap) (fuel : Nat) (rest : List Char) :
    readValue (fuel + 1) ('[' :: (gap ++ ']' :: rest)) = (.list [] true, some rest) := by
  have hbracket : isSpace '[' = false := by decide
  have hclose : isSpace ']' = false := by decide
  unfold readValue
  simp only [skipSpace_cons hbracket, skipSpace_gap hgap, skipSpace_cons hclose]

theorem readValue_emptyObject {gap : List Char} (hgap : Gap gap) (fuel : Nat)
    (rest : List Char) :
    readValue (fuel + 1) ('\x7b' :: (gap ++ '\x7d' :: rest)) = (.object [] true, some rest) := by
  have hbrace : isSpace '\x7b' = false := by decide
  have hclose : isSpace '\x7d' = false := by decide
  unfold readValue
  simp only [skipSpace_cons hbrace, skipSpace_gap hgap, skipSpace_cons hclose]

/-- A list that is not empty is read item by item. -/
theorem readValue_list {start : List Char} {c : Char} {tail : List Char}
    (hstart : skipSpace start = c :: tail) (hc : c ≠ ']') (fuel : Nat) :
    readValue (fuel + 1) ('[' :: start) =
      (.list (readItems fuel start).1 (readItems fuel start).2.isSome,
        (readItems fuel start).2) := by
  have hbracket : isSpace '[' = false := by decide
  unfold readValue
  simp only [skipSpace_cons hbracket]
  split
  · rename_i after heq
    rw [hstart, List.cons.injEq] at heq
    exact absurd heq.1 hc
  · simp only [readItems_skipSpace]

/-- An object that is not empty is read member by member. -/
theorem readValue_object {start tail : List Char} (hstart : skipSpace start = '"' :: tail)
    (fuel : Nat) :
    readValue (fuel + 1) ('\x7b' :: start) =
      (.object (readMembers fuel start).1 (readMembers fuel start).2.isSome,
        (readMembers fuel start).2) := by
  have hbrace : isSpace '\x7b' = false := by decide
  unfold readValue
  simp only [skipSpace_cons hbrace]
  split
  · rename_i after heq
    rw [hstart, List.cons.injEq] at heq
    exact absurd heq.1 (by decide)
  · simp only [readMembers_skipSpace]

theorem readItems_last {fuel : Nat} {cs gap rest : List Char} {item : Json} (hgap : Gap gap)
    (hitem : readValue fuel cs = (item, some (gap ++ ']' :: rest))) :
    readItems (fuel + 1) cs = ([item], some rest) := by
  have hclose : isSpace ']' = false := by decide
  unfold readItems
  simp only [hitem, skipSpace_gap hgap, skipSpace_cons hclose]

theorem readItems_cons {fuel : Nat} {cs gap more rest : List Char} {item : Json}
    {items : List Json} (hgap : Gap gap)
    (hitem : readValue fuel cs = (item, some (gap ++ ',' :: more)))
    (hmore : readItems fuel more = (items, some rest)) :
    readItems (fuel + 1) cs = (item :: items, some rest) := by
  have hcomma : isSpace ',' = false := by decide
  unfold readItems
  simp only [hitem, skipSpace_gap hgap, skipSpace_cons hcomma, hmore]

theorem readMembers_last {fuel : Nat} {before keyText between cs gap rest : List Char}
    {key : Option String} {value : Json} (hbefore : Gap before) (hkey : SpellsString key keyText)
    (hbetween : Gap between) (hgap : Gap gap)
    (hvalue : readValue fuel cs = (value, some (gap ++ '\x7d' :: rest))) :
    readMembers (fuel + 1) (before ++ keyText ++ between ++ ':' :: cs) =
      ([(key, value)], some rest) := by
  have hquote : isSpace '"' = false := by decide
  have hcolon : isSpace ':' = false := by decide
  have hclose : isSpace '\x7d' = false := by decide
  obtain ⟨pieces, inner, rfl, rfl, hscan⟩ := hkey.scan
  unfold readMembers
  simp only [List.append_assoc, List.cons_append, skipSpace_gap hbefore, skipSpace_cons hquote,
    hscan, skipSpace_gap hbetween, skipSpace_cons hcolon, hvalue, skipSpace_gap hgap,
    skipSpace_cons hclose]

theorem readMembers_cons {fuel : Nat} {before keyText between cs gap more rest : List Char}
    {key : Option String} {value : Json} {members : List (Option String × Json)}
    (hbefore : Gap before) (hkey : SpellsString key keyText) (hbetween : Gap between)
    (hgap : Gap gap) (hvalue : readValue fuel cs = (value, some (gap ++ ',' :: more)))
    (hmore : readMembers fuel more = (members, some rest)) :
    readMembers (fuel + 1) (before ++ keyText ++ between ++ ':' :: cs) =
      ((key, value) :: members, some rest) := by
  have hquote : isSpace '"' = false := by decide
  have hcolon : isSpace ':' = false := by decide
  have hcomma : isSpace ',' = false := by decide
  obtain ⟨pieces, inner, rfl, rfl, hscan⟩ := hkey.scan
  unfold readMembers
  simp only [List.append_assoc, List.cons_append, skipSpace_gap hbefore, skipSpace_cons hquote,
    hscan, skipSpace_gap hbetween, skipSpace_cons hcolon, hvalue, skipSpace_gap hgap,
    skipSpace_cons hcomma, hmore]

/-! ### Reading a spelling to its end

The induction is on the spelling.  A value needs less than twice as much fuel as its spelling has
characters, since each list and each object begins with a bracket. -/

mutual

/-- **A value is found again in each of its spellings**, whatever follows. -/
theorem readValue_of_spells {json : Json} {cs : List Char} (h : Spells json cs) {fuel : Nat}
    {rest : List Char} (hfuel : 2 * cs.length ≤ fuel + 1) (hrest : Numeral.EndsInteger rest) :
    readValue fuel (cs ++ rest) = (json, some rest) := by
  obtain ⟨c, tail, hcs, -, -⟩ := h.head
  obtain ⟨fuel, rfl⟩ : ∃ n, fuel = n + 1 := by
    refine ⟨fuel - 1, ?_⟩
    rw [hcs, List.length_cons] at hfuel
    omega
  match h with
  | .null => rfl
  | .yes => rfl
  | .no => rfl
  | .number hnumeral => exact readValue_number hnumeral fuel hrest
  | .text hstring => exact readValue_string hstring fuel rest
  | .illegible hstring => exact readValue_string hstring fuel rest
  | .emptyList hgap => simpa using readValue_emptyList hgap fuel rest
  | @Spells.list items inner hitems =>
      obtain ⟨c, tail, hstart, hc⟩ := hitems.head (']' :: rest)
      have hread : readItems fuel (inner ++ ']' :: rest) = (items, some rest) :=
        readItems_of_spells hitems (by simp at hfuel; omega)
      have hlist := readValue_list hstart hc fuel
      rw [hread] at hlist
      simpa using hlist
  | .emptyObject hgap => simpa using readValue_emptyObject hgap fuel rest
  | @Spells.object members inner hmembers =>
      obtain ⟨tail, hstart⟩ := hmembers.head ('\x7d' :: rest)
      have hread : readMembers fuel (inner ++ '\x7d' :: rest) = (members, some rest) :=
        readMembers_of_spells hmembers (by simp at hfuel; omega)
      have hobject := readValue_object hstart fuel
      rw [hread] at hobject
      simpa using hobject

theorem readItems_of_spells {items : List Json} {cs : List Char} (h : SpellsItems items cs)
    {fuel : Nat} {rest : List Char} (hfuel : 2 * cs.length ≤ fuel) :
    readItems fuel (cs ++ ']' :: rest) = (items, some rest) := by
  match h with
  | @SpellsItems.last before after cs item hbefore hafter hitem =>
      obtain ⟨c, tail, hcs, -, -⟩ := hitem.head
      obtain ⟨fuel, rfl⟩ : ∃ n, fuel = n + 1 := by
        refine ⟨fuel - 1, ?_⟩
        simp [hcs] at hfuel
        omega
      have hread : readValue fuel (cs ++ (after ++ ']' :: rest)) =
          (item, some (after ++ ']' :: rest)) :=
        readValue_of_spells hitem (by simp at hfuel; omega)
          (endsInteger_gap hafter (endsInteger_cons (by simp) _))
      rw [← readValue_gap hbefore] at hread
      simpa using readItems_last hafter hread
  | @SpellsItems.cons before after cs more item items hbefore hafter hitem hmore =>
      obtain ⟨fuel, rfl⟩ : ∃ n, fuel = n + 1 := by
        refine ⟨fuel - 1, ?_⟩
        simp at hfuel
        omega
      have hread : readValue fuel (cs ++ (after ++ ',' :: (more ++ ']' :: rest))) =
          (item, some (after ++ ',' :: (more ++ ']' :: rest))) :=
        readValue_of_spells hitem (by simp at hfuel; omega)
          (endsInteger_gap hafter (endsInteger_cons (by simp) _))
      have hothers : readItems fuel (more ++ ']' :: rest) = (items, some rest) :=
        readItems_of_spells hmore (by simp at hfuel; omega)
      rw [← readValue_gap hbefore] at hread
      simpa using readItems_cons hafter hread hothers

theorem readMembers_of_spells {members : List (Option String × Json)} {cs : List Char}
    (h : SpellsMembers members cs) {fuel : Nat} {rest : List Char}
    (hfuel : 2 * cs.length ≤ fuel) :
    readMembers fuel (cs ++ '\x7d' :: rest) = (members, some rest) := by
  match h with
  | @SpellsMembers.last before between start after keyText cs key value hbefore hkey hbetween
      hstart hafter hvalue =>
      obtain ⟨fuel, rfl⟩ : ∃ n, fuel = n + 1 := by
        refine ⟨fuel - 1, ?_⟩
        simp at hfuel
        omega
      have hread : readValue fuel (cs ++ (after ++ '\x7d' :: rest)) =
          (value, some (after ++ '\x7d' :: rest)) :=
        readValue_of_spells hvalue (by simp at hfuel; omega)
          (endsInteger_gap hafter (endsInteger_cons (by simp) _))
      rw [← readValue_gap hstart] at hread
      simpa using readMembers_last hbefore hkey hbetween hafter hread
  | @SpellsMembers.cons before between start after keyText cs more key value members hbefore hkey
      hbetween hstart hafter hvalue hmore =>
      obtain ⟨fuel, rfl⟩ : ∃ n, fuel = n + 1 := by
        refine ⟨fuel - 1, ?_⟩
        simp at hfuel
        omega
      have hread : readValue fuel (cs ++ (after ++ ',' :: (more ++ '\x7d' :: rest))) =
          (value, some (after ++ ',' :: (more ++ '\x7d' :: rest))) :=
        readValue_of_spells hvalue (by simp at hfuel; omega)
          (endsInteger_gap hafter (endsInteger_cons (by simp) _))
      have hothers : readMembers fuel (more ++ '\x7d' :: rest) = (members, some rest) :=
        readMembers_of_spells hmore (by simp at hfuel; omega)
      rw [← readValue_gap hstart] at hread
      simpa using readMembers_cons hbefore hkey hbetween hafter hread hothers

end

/-- A value among blanks is read to its end, and the blanks behind it are left. -/
theorem read_between {json : Json} {before cs after : List Char} (hbefore : Gap before)
    (h : Spells json cs) (hafter : Gap after) :
    read (String.ofList (before ++ cs ++ after)) = (json, some after) := by
  have hends : Numeral.EndsInteger after := by
    have hnothing : Numeral.EndsInteger [] := fun c hc => by simp at hc
    rw [← List.append_nil after]
    exact endsInteger_gap hafter hnothing
  have hread : readValue (2 * (before ++ cs ++ after).length + 2) (cs ++ after) =
      (json, some after) :=
    readValue_of_spells h (by simp; omega) hends
  rw [← readValue_gap hbefore, ← List.append_assoc] at hread
  rw [read, readChars, String.toList_ofList]
  exact hread

theorem read_of_isTextOf {text : String} {json : Json} (h : IsTextOf text json) :
    ∃ gap, Gap gap ∧ read text = (json, some gap) := by
  obtain ⟨hbefore, hafter, hspells⟩ := h
  exact ⟨_, hafter, read_between hbefore hspells hafter⟩

theorem read_of_spells {json : Json} {cs : List Char} (h : Spells json cs) :
    read (String.ofList cs) = (json, some []) := by
  simpa using read_between .nil h .nil

end LanguageBlueprint.Json
