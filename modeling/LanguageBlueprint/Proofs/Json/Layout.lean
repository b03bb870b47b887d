/-
  LanguageBlueprint/Proofs/Json/Layout.lean
  =========================================
  **Both layouts are spellings.**  A value that is whole, with texts as keys and
  integers as numbers, can be written.  Its compact form and its pretty form at
  any level of indentation are then spellings of it, so the reader finds the value
  again in either text.

    * the two forms are spellings  — `spells_compactChars`, `spells_prettyChars`;
    * the two texts are read back  — `read_compact`, `read_pretty`;
    * a value that can be written is complete, so a reader may skip it —
      `isComplete_of_writable`.
-/
import LanguageBlueprint.Proofs.Json.Spelling

namespace LanguageBlueprint.Json

/-! ### What can be written -/

mutual

/-- The value is whole, its keys are texts and its numbers are integers. -/
def Writable : Json → Prop
  | .null => True
  | .bool _ => True
  | .number numeral => ∃ n, numeral = .ofInt n
  | .text _ => True
  | .illegible => False
  | .list items closed => AllWritable items ∧ closed = true
  | .object members closed => AllMembersWritable members ∧ closed = true
  | .broken => False

def AllWritable : List Json → Prop
  | [] => True
  | item :: items => item.Writable ∧ AllWritable items

def AllMembersWritable : List (Option String × Json) → Prop
  | [] => True
  | (key, value) :: members => (∃ k, key = some k) ∧ value.Writable ∧ AllMembersWritable members

end

theorem writable_ofInt (n : Int) : (Json.ofInt n).Writable := by
  unfold Json.ofInt Writable
  exact ⟨n, rfl⟩

theorem allWritable_of_forall {items : List Json} (h : ∀ item ∈ items, item.Writable) :
    AllWritable items := by
  induction items with
  | nil => trivial
  | cons item items ih =>
      exact ⟨h item (by simp), ih (fun other hother => h other (by simp [hother]))⟩

theorem writable_ofList {items : List Json} (h : ∀ item ∈ items, item.Writable) :
    (Json.ofList items).Writable := by
  unfold Json.ofList Writable
  exact ⟨allWritable_of_forall h, rfl⟩

theorem writable_ofMembers {members : List (String × Json)}
    (h : ∀ member ∈ members, member.2.Writable) : (Json.ofMembers members).Writable := by
  unfold Json.ofMembers Writable
  refine ⟨?_, rfl⟩
  induction members with
  | nil => trivial
  | cons member members ih =>
      have hothers := ih (fun other hother => h other (by simp [hother]))
      exact ⟨⟨member.1, rfl⟩, h member (by simp), hothers⟩

theorem writable_ofOption {α : Type} {encode : α → Json} (h : ∀ a, (encode a).Writable)
    (a? : Option α) : (Json.ofOption encode a?).Writable := by
  cases a? with
  | none => trivial
  | some a => exact h a

mutual

theorem isComplete_of_writable : ∀ {json : Json}, json.Writable → json.isComplete = true
  | .null, _ => rfl
  | .bool _, _ => rfl
  | .number _, _ => rfl
  | .text _, _ => rfl
  | .list items closed, h => by
      obtain ⟨hitems, rfl⟩ := h
      simp [isComplete, allComplete_of_writable hitems]
  | .object members closed, h => by
      obtain ⟨hmembers, rfl⟩ := h
      simp [isComplete, allMembersComplete_of_writable hmembers]

theorem allComplete_of_writable : ∀ {items : List Json}, AllWritable items →
    allComplete items = true
  | [], _ => rfl
  | item :: items, h => by
      simp [allComplete, isComplete_of_writable h.1, allComplete_of_writable h.2]

theorem allMembersComplete_of_writable : ∀ {members : List (Option String × Json)},
    AllMembersWritable members → allMembersComplete members = true
  | [], _ => rfl
  | (key, value) :: members, h => by
      simp [allMembersComplete, isComplete_of_writable h.2.1,
        allMembersComplete_of_writable h.2.2]

end

/-! ### The compact form -/

theorem compactMoreItems_cons (item : Json) (items : List Json) :
    compactMoreItems (item :: items) = ',' :: compactItems (item :: items) := by
  simp only [compactMoreItems, compactItems]

theorem compactMoreMembers_cons (member : Option String × Json)
    (members : List (Option String × Json)) :
    compactMoreMembers (member :: members) = ',' :: compactMembers (member :: members) := by
  obtain ⟨key, value⟩ := member
  simp only [compactMoreMembers, compactMembers]

mutual

theorem spells_compactChars : ∀ {json : Json}, json.Writable → Spells json json.compactChars
  | .null, _ => .null
  | .bool true, _ => .yes
  | .bool false, _ => .no
  | .number numeral, h => by
      obtain ⟨n, rfl⟩ := h
      exact .number (Numeral.spells_ofInt n)
  | .text s, _ => .text (spells_stringChars s)
  | .list [] closed, h => by
      obtain ⟨-, rfl⟩ := h
      exact .emptyList .nil
  | .list (item :: items) closed, h => by
      obtain ⟨hitems, rfl⟩ := h
      exact .list (spells_compactItems (item :: items) (by simp) hitems)
  | .object [] closed, h => by
      obtain ⟨-, rfl⟩ := h
      exact .emptyObject .nil
  | .object (member :: members) closed, h => by
      obtain ⟨hmembers, rfl⟩ := h
      exact .object (spells_compactMembers (member :: members) (by simp) hmembers)

theorem spells_compactItems : ∀ (items : List Json), items ≠ [] → AllWritable items →
    SpellsItems items (compactItems items)
  | [], hne, _ => absurd rfl hne
  | [item], _, h => by
      have hlast := SpellsItems.last .nil .nil (spells_compactChars h.1)
      simpa [compactItems, compactMoreItems] using hlast
  | item :: next :: items, _, h => by
      have hcons := SpellsItems.cons .nil .nil (spells_compactChars h.1)
        (spells_compactItems (next :: items) (by simp) h.2)
      rw [compactItems, compactMoreItems_cons]
      simpa using hcons

theorem spells_compactMembers : ∀ (members : List (Option String × Json)), members ≠ [] →
    AllMembersWritable members → SpellsMembers members (compactMembers members)
  | [], hne, _ => absurd rfl hne
  | [(key, value)], _, h => by
      obtain ⟨⟨k, rfl⟩, hvalue, -⟩ := h
      have hlast := SpellsMembers.last .nil (spells_stringChars k) .nil .nil .nil
        (spells_compactChars hvalue)
      simpa [compactMembers, compactMoreMembers, keyChars] using hlast
  | (key, value) :: next :: members, _, h => by
      obtain ⟨⟨k, rfl⟩, hvalue, hmore⟩ := h
      have hcons := SpellsMembers.cons .nil (spells_stringChars k) .nil .nil .nil
        (spells_compactChars hvalue) (spells_compactMembers (next :: members) (by simp) hmore)
      rw [compactMembers, compactMoreMembers_cons]
      simpa [keyChars] using hcons

end

theorem isTextOf_compact {json : Json} (h : json.Writable) : IsTextOf json.compact json := by
  have htext := IsTextOf.spelled .nil .nil (spells_compactChars h)
  rwa [List.nil_append, List.append_nil] at htext

theorem read_compact {json : Json} (h : json.Writable) : read json.compact = (json, some []) :=
  read_of_spells (spells_compactChars h)

/-! ### The pretty form -/

theorem gap_newLine (level : Nat) : Gap (newLine level) := by
  intro c hc
  simp only [newLine, List.mem_cons, List.mem_replicate] at hc
  rcases hc with rfl | ⟨-, rfl⟩ <;> decide

theorem gap_space : Gap [' '] := by
  intro c hc
  rw [List.mem_singleton.mp hc]
  decide

mutual

/-- The pretty form is a spelling, whatever its level of indentation. -/
theorem spells_prettyChars : ∀ {json : Json} (level : Nat), json.Writable →
    Spells json (json.prettyChars level)
  | .null, _, _ => .null
  | .bool true, _, _ => .yes
  | .bool false, _, _ => .no
  | .number numeral, _, h => by
      obtain ⟨n, rfl⟩ := h
      exact .number (Numeral.spells_ofInt n)
  | .text s, _, _ => .text (spells_stringChars s)
  | .list [] closed, _, h => by
      obtain ⟨-, rfl⟩ := h
      exact .emptyList .nil
  | .list (item :: items) closed, level, h => by
      obtain ⟨hitems, rfl⟩ := h
      have hspells := Spells.list (spells_prettyItems (gap_newLine level) (level + 1)
        (item :: items) (by simp) hitems)
      simpa [prettyChars, prettyMoreItems] using hspells
  | .object [] closed, _, h => by
      obtain ⟨-, rfl⟩ := h
      exact .emptyObject .nil
  | .object ((key, value) :: members) closed, level, h => by
      obtain ⟨hmembers, rfl⟩ := h
      have hspells := Spells.object (spells_prettyMembers (gap_newLine level) (level + 1)
        ((key, value) :: members) (by simp) hmembers)
      simpa [prettyChars, prettyMoreMembers] using hspells

/-- The items without the comma before the first; the gap stands before the closing bracket. -/
theorem spells_prettyItems {gap : List Char} (hgap : Gap gap) (level : Nat) :
    ∀ (items : List Json), items ≠ [] → AllWritable items →
      SpellsItems items ((prettyMoreItems level items).tail ++ gap)
  | [], hne, _ => absurd rfl hne
  | [item], _, h => by
      have hlast := SpellsItems.last (gap_newLine level) hgap (spells_prettyChars level h.1)
      simpa [prettyMoreItems] using hlast
  | item :: next :: items, _, h => by
      have hcons := SpellsItems.cons (gap_newLine level) .nil (spells_prettyChars level h.1)
        (spells_prettyItems hgap level (next :: items) (by simp) h.2)
      simpa [prettyMoreItems] using hcons

theorem spells_prettyMembers {gap : List Char} (hgap : Gap gap) (level : Nat) :
    ∀ (members : List (Option String × Json)), members ≠ [] → AllMembersWritable members →
      SpellsMembers members ((prettyMoreMembers level members).tail ++ gap)
  | [], hne, _ => absurd rfl hne
  | [(key, value)], _, h => by
      obtain ⟨⟨k, rfl⟩, hvalue, -⟩ := h
      have hlast := SpellsMembers.last (gap_newLine level) (spells_stringChars k) .nil gap_space
        hgap (spells_prettyChars level hvalue)
      simpa [prettyMoreMembers, keyChars] using hlast
  | (key, value) :: next :: members, _, h => by
      obtain ⟨⟨k, rfl⟩, hvalue, hmore⟩ := h
      have hcons := SpellsMembers.cons (gap_newLine level) (spells_stringChars k) .nil gap_space
        .nil (spells_prettyChars level hvalue)
        (spells_prettyMembers hgap level (next :: members) (by simp) hmore)
      simpa [prettyMoreMembers, keyChars] using hcons

end

theorem read_pretty {json : Json} (h : json.Writable) : read json.pretty = (json, some []) :=
  read_of_spells (spells_prettyChars 0 h)

end LanguageBlueprint.Json
